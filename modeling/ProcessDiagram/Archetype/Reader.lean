import ProcessDiagram.Archetype.Catalog
import ProcessDiagram.Json.Display
import ProcessDiagram.Text.Basic

set_option autoImplicit false

namespace ProcessDiagram.Archetype

def readText (value : Json) : String :=
  value.text?.getD ""

def readKind (value : Json) : Except UnknownMember NodeKind :=
  match value.text?.bind (memberNamed? NodeKind.name NodeKind.all) with
  | some kind => .ok kind
  | none => .error ⟨"NodeKind", value.inspect⟩

def readAction (data : Json) : Except UnknownMember Action :=
  match data.items with
  | .text "node" :: kind :: label :: stem :: details => do
      let kind ← readKind kind
      let details := details.headD .null
      return .node kind (readText label) (readText stem) (details.field "role").text?
        (readText (details.field "documentation")) (readText (details.field "actor"))
  | .text "task" :: label :: stem :: role =>
      return .task (readText label) (readText stem) (role.headD .null).text?
  | .text "connect" :: source :: target :: condition =>
      return .connect (readText source) (readText target) (condition.headD .null).text?
  | .text "reserve" :: elementId :: _ => return .reserve (readText elementId)
  | _ :: ids => return .chain (ids.map readText)
  | [] => return .chain []

def speaksOf (keyword : String) (description : Description) : Bool :=
  Text.holds keyword (Text.lower description.name)

variable {Coordinate : Type}

def read (coordinate : Int → Coordinate)
    (readTable : Json → Table String (Coordinate × Coordinate)) (data : Json) :
    Archetype Coordinate :=
  match data with
  | .text name =>
      ((catalog coordinate).find? fun archetype => archetype.name = name).getD (invoice coordinate)
  | data =>
      { name := readText (data.field "name")
        accepts := speaksOf (readText (data.field "keyword"))
        recipe := (data.field "build").items.map readAction
        places := readTable (data.field "layout") }

end ProcessDiagram.Archetype
