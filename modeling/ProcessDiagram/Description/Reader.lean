import ProcessDiagram.Description.Basic
import ProcessDiagram.Fault
import ProcessDiagram.Json.Display
import ProcessDiagram.Text.Basic
import ProcessDiagram.Text.Casing

set_option autoImplicit false

namespace ProcessDiagram.Description

def textOf : Json → String
  | .null => ""
  | value => value.display

def textItems : Json → List Json
  | .text value => if value = "" then [] else [.text value]
  | .list items => items.filter fun item => !item.isNull
  | _ => []

def textsOf (value : Json) : List String :=
  (textItems value).map textOf

def kindKey (text : String) : List Char :=
  (Text.lower (Text.strip text)).toList.filter fun c => c ≠ '_' && c ≠ ' '

def kindOf {Kind : Type} (name : Kind → String) (kinds : List Kind) (otherwise : Kind)
    (value : Json) : Kind :=
  let key := kindKey (textOf value)
  (kinds.find? fun kind => (Text.lower (name kind)).toList = key).getD otherwise

def entryOf? : Json → Option Json
  | .text name => some (.record [("name", .text name)])
  | .record fields => some (.record fields)
  | _ => none

def entries : Json → List Json
  | .list items => items.filterMap entryOf?
  | _ => []

def eventEntries : Json → List Json
  | .list items => items.filterMap entryOf?
  | value => (entryOf? value).toList

def idOf (value : Json) : Option String :=
  match value with
  | .null => none
  | .text text => if text = "" then none else some text
  | value => some value.display

def eventOf (entry : Json) : EventEntry where
  name := textOf (entry.field "name")
  description := textOf (entry.field "description")

def stepOf (entry : Json) : Step where
  id := idOf (entry.field "id")
  name := textOf (entry.field "name")
  description := textOf (entry.field "description")
  kind := kindOf StepKind.name StepKind.all .task (entry.field "type")
  actor := textOf (entry.field "actor")
  inputs := textsOf (entry.field "inputs")
  outputs := textsOf (entry.field "outputs")
  duration := textOf (entry.field "duration")

def gatewayOf (entry : Json) : Gateway where
  id := textOf (entry.field "id")
  name := textOf (entry.field "name")
  kind := kindOf GatewayKind.name GatewayKind.all .exclusive (entry.field "type")
  condition := textOf (entry.field "condition")
  outcomes := textsOf (entry.field "outcomes")

def ofRecord (data : Json) : Description where
  name := textOf (data.field "name")
  description := textOf (data.field "description")
  steps := (entries (data.field "steps")).map stepOf
  gateways := (entries (data.field "gateways")).map gatewayOf
  startEvents := (eventEntries (data.field "start_events")).map eventOf
  endEvents := (eventEntries (data.field "end_events")).map eventOf

structure Place where
  path : List String
  value : Json

def textPlace (data : Json) (key : String) : Place :=
  ⟨[key], data.field key⟩

def listPlace (data : Json) (key : String) : Place :=
  ⟨[key], .list (textItems (data.field key))⟩

def eventPlaces (entry : Json) : List Place :=
  ["name", "description"].map (textPlace entry)

def stepPlaces (entry : Json) : List Place :=
  ["id", "name", "description", "type", "actor"].map (textPlace entry) ++
    ["inputs", "outputs"].map (listPlace entry) ++ [textPlace entry "duration"]

def gatewayPlaces (entry : Json) : List Place :=
  ["id", "name", "type", "condition"].map (textPlace entry) ++ [listPlace entry "outcomes"]

def entryPlaces (key : String) (places : Json → List Place) (entries : List Json) : List Place :=
  (entries.zipIdx).flatMap fun (entry, index) =>
    (places entry).map fun place => { place with path := key :: toString index :: place.path }

def places (data : Json) : List Place :=
  ["name", "description"].map (textPlace data) ++
    entryPlaces "steps" stepPlaces (entries (data.field "steps")) ++
    entryPlaces "gateways" gatewayPlaces (entries (data.field "gateways")) ++
    entryPlaces "start_events" eventPlaces (eventEntries (data.field "start_events")) ++
    entryPlaces "end_events" eventPlaces (eventEntries (data.field "end_events"))

-- Why data could not be read: its faults, or an exception that came between.
inductive Trouble where
  | invalid (faults : List Fault)
  | interrupted (interruption : Interruption)
deriving DecidableEq, Repr

-- That a value is unfit is a fault of its place, and the reading goes on; anything else ends it.
def Place.check (place : Place) : Except Interruption (Option Fault) :=
  match place.value.convert with
  | .ok _ => .ok none
  | .error .unfit => .ok (some ⟨place.path, .overlong⟩)
  | .error (.interruption interruption) => .error interruption

def attempt (data : Json) : Except Trouble Description :=
  match data with
  | .record fields =>
      match (places (.record fields)).mapM Place.check with
      | .error interruption => .error (.interrupted interruption)
      | .ok checked =>
          match checked.filterMap id with
          | [] => .ok (ofRecord (.record fields))
          | found => .error (.invalid found)
  | _ => .ok {}

def faults (data : Json) : List Fault :=
  ((places data).filter fun place => place.value.hasOverlong).map fun place =>
    ⟨place.path, .overlong⟩

-- What comes of an attempt, which nothing interrupts.
def read (data : Json) : Except (List Fault) Description :=
  match data with
  | .record fields =>
      match faults (.record fields) with
      | [] => .ok (ofRecord (.record fields))
      | found => .error found
  | _ => .ok {}

def Place.fault? (place : Place) : Option Fault :=
  if place.value.hasOverlong then some ⟨place.path, .overlong⟩ else none

theorem Place.check_ok (place : Place) : place.check = .ok place.fault? := by
  rw [check, Json.convert, fault?]
  cases place.value.hasOverlong with
  | true => rfl
  | false => rfl

theorem all_checked (places : List Place) :
    places.mapM Place.check = .ok (places.map Place.fault?) := by
  rw [funext Place.check_ok]
  exact List.mapM_pure

theorem found_faults (data : Json) :
    ((places data).map Place.fault?).filterMap id = faults data := by
  rw [faults]
  induction places data with
  | nil => rfl
  | cons place rest ih =>
      rw [List.map_cons, List.filter_cons, Place.fault?]
      cases place.value.hasOverlong with
      | true => exact congrArg _ ih
      | false => exact ih

theorem attempt_read (data : Json) : attempt data = (read data).mapError Trouble.invalid := by
  cases data with
  | record fields =>
      rw [attempt, all_checked, read]
      simp only [found_faults]
      cases faults (.record fields) with
      | nil => rfl
      | cons fault rest => rfl
  | _ => rfl

end ProcessDiagram.Description
