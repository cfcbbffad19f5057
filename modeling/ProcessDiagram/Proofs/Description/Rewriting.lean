import ProcessDiagram.Description.Writer
import ProcessDiagram.Proofs.Description.Conversion

set_option autoImplicit false

namespace ProcessDiagram

theorem Decimal.signed_nonempty (negative : Bool) (chars : List Char) (nonempty : chars ≠ []) :
    signed negative chars ≠ [] := by
  cases negative with
  | false => exact nonempty
  | true => exact List.cons_ne_nil _ _

theorem Decimal.write_nonempty (style : Style) (digits : List Char) (place : Int) :
    style.write digits place ≠ [] := by
  rw [Style.write]
  split
  · split
    · simp
    · split <;> simp
  · simp

theorem Decimal.shortest_nonempty (value : Float) : shortestText value ≠ "" := by
  have chars : Style.general.text (Binary.ofFloat value) ≠ [] := by
    cases Binary.ofFloat value with
    | finite negative mantissa exponent =>
        rw [Style.text]
        split
        · exact signed_nonempty _ _ (List.cons_ne_nil _ _)
        · exact signed_nonempty _ _ (write_nonempty _ _ _)
    | infinite negative => exact signed_nonempty _ _ (List.cons_ne_nil _ _)
    | undefined => exact List.cons_ne_nil _ _
  intro empty
  have none := congrArg String.toList empty
  rw [shortestText, String.toList_ofList] at none
  exact chars none

theorem Json.integer_nonempty (value : Int) : (integer value).display ≠ "" := by
  cases value with
  | ofNat number =>
      change toString number ≠ ""
      simp
  | negSucc number =>
      change "-" ++ toString (number + 1) ≠ ""
      simp

namespace Description

theorem id_nonempty (value : Json) : idOf value ≠ some "" := by
  cases value with
  | null => exact nofun
  | bool value => cases value <;> decide
  | integer value => exact fun same => Json.integer_nonempty value (Option.some.inj same)
  | decimal value => exact fun same => Decimal.shortest_nonempty value (Option.some.inj same)
  | text text => by_cases empty : text = "" <;> simp [idOf, empty]
  | list items => simp [idOf, Json.display, Json.inspect]
  | record fields => simp [idOf, Json.display, Json.inspect]

@[simp] theorem text_read_back (value : String) : textOf (.text value) = value := rfl

@[simp] theorem texts_read_back (texts : List String) : textsOf (textList texts) = texts := by
  induction texts with
  | nil => rfl
  | cons text rest ih => simpa [textsOf, textList, textItems, Json.isNull] using ih

theorem id_read_back (id : Option String) (nonempty : id ≠ some "") :
    idOf ((id.map Json.text).getD .null) = id := by
  cases id with
  | none => rfl
  | some text =>
      have told : text ≠ "" := fun empty => nonempty (congrArg some empty)
      simp [idOf, told]

theorem step_kind_read_back (kind : StepKind) :
    kindOf StepKind.name StepKind.all .task (.text kind.name) = kind := by
  cases kind <;> decide +kernel

theorem gateway_kind_read_back (kind : GatewayKind) :
    kindOf GatewayKind.name GatewayKind.all .exclusive (.text kind.name) = kind := by
  cases kind <;> decide +kernel

theorem event_read_back (event : EventEntry) : eventOf event.toJson = event := by
  simp [eventOf, EventEntry.toJson, Json.field, Table.get?]

theorem step_read_back (step : Step) (nonempty : step.id ≠ some "") :
    stepOf step.toJson = step := by
  simp [stepOf, Step.toJson, Json.field, Table.get?, id_read_back step.id nonempty,
    step_kind_read_back]

theorem gateway_read_back (gateway : Gateway) : gatewayOf gateway.toJson = gateway := by
  simp [gatewayOf, Gateway.toJson, Json.field, Table.get?, gateway_kind_read_back]

theorem entries_read_back {Source : Type} (write : Source → Json) (read : Json → Source)
    (sources : List Source) (kept : ∀ source, entryOf? (write source) = some (write source))
    (back : ∀ source ∈ sources, read (write source) = source) :
    ((sources.map write).filterMap entryOf?).map read = sources := by
  induction sources with
  | nil => rfl
  | cons source rest ih =>
      obtain ⟨first, others⟩ := List.forall_mem_cons.mp back
      rw [List.map_cons, List.filterMap_cons_some (kept source), List.map_cons, first, ih others]

-- What reading makes of an id: a missing one is none, and none is empty.
def Normal (description : Description) : Prop :=
  ∀ step ∈ description.steps, step.id ≠ some ""

theorem of_record_normal (data : Json) : Normal (ofRecord data) := by
  intro step member
  obtain ⟨entry, _, rfl⟩ := List.mem_map.mp member
  exact id_nonempty (entry.field "id")

theorem read_normal (data : Json) (description : Description)
    (readable : read data = .ok description) : Normal description := by
  have empty : Normal {} := fun step none => (nomatch none)
  cases data with
  | record fields =>
      rw [read] at readable
      split at readable
      · rw [← Except.ok.inj readable]
        exact of_record_normal (.record fields)
      · cases readable
  | _ => exact Except.ok.inj readable ▸ empty

theorem written_read_back (description : Description) (normal : Normal description) :
    ofRecord description.toJson = description := by
  have steps := entries_read_back Step.toJson stepOf description.steps (fun _ => rfl)
    fun step member => step_read_back step (normal step member)
  have gateways := entries_read_back Gateway.toJson gatewayOf description.gateways (fun _ => rfl)
    fun gateway _ => gateway_read_back gateway
  have events (list : List EventEntry) := entries_read_back EventEntry.toJson eventOf list
    (fun _ => rfl) fun event _ => event_read_back event
  simp [ofRecord, toJson, toFields, Json.field, Table.get?, entries, eventEntries, steps, gateways,
    events, -List.filterMap_map]

theorem texts_plain (texts : List String) : ¬ (textList texts).HoldsOverlong := by
  simp [textList, Json.list_overlong, Json.text_not_overlong]

theorem step_plain (step : Step) : ¬ step.toJson.HoldsOverlong := by
  have id : ¬ ((step.id.map Json.text).getD .null).HoldsOverlong := by
    cases step.id with
    | none => exact Json.null_not_overlong
    | some id => exact Json.text_not_overlong id
  simp [Step.toJson, Json.record_overlong, Json.text_not_overlong, texts_plain, id]

theorem gateway_plain (gateway : Gateway) : ¬ gateway.toJson.HoldsOverlong := by
  simp [Gateway.toJson, Json.record_overlong, Json.text_not_overlong, texts_plain]

theorem event_plain (event : EventEntry) : ¬ event.toJson.HoldsOverlong := by
  simp [EventEntry.toJson, Json.record_overlong, Json.text_not_overlong]

theorem written_plain (description : Description) : ¬ description.toJson.HoldsOverlong := by
  simp [toJson, toFields, Json.record_overlong, Json.list_overlong, Json.text_not_overlong,
    step_plain, gateway_plain, event_plain]

theorem normal_read_back (description : Description) (normal : Normal description) :
    read description.toJson = .ok description := by
  rw [toJson, plain_readable _ (written_plain description)]
  exact congrArg Except.ok (written_read_back description normal)

/-- What is read of any data is read back from what is written of it. -/
theorem reading_idempotent (data : Json) (description : Description)
    (readable : read data = .ok description) : read description.toJson = .ok description :=
  normal_read_back description (read_normal data description readable)

/-- Data with a field of each shape that reading mends. -/
def untidyData : Json :=
  .record [("name", .integer 7), ("description", .null),
    ("steps", .list [.text "Check", .bool true,
      .record [("id", .text ""), ("type", .text " User_Task "), ("inputs", .text "form"),
        ("outputs", .list [.null, .text "", .list [.text "a'b", .null]])],
      .record [("id", .bool false), ("type", .integer 3)]]),
    ("gateways", .record []), ("start_events", .record [("name", .list [])]),
    ("end_events", .text "Done")]

def tidyDescription : Description where
  name := "7"
  steps := [{ name := "Check" },
    { kind := .userTask, inputs := ["form"], outputs := ["", "[\"a'b\", None]"] },
    { id := some "False" }]
  startEvents := [{ name := "[]" }]
  endEvents := [{ name := "Done" }]

theorem untidy_read_back :
    read untidyData = .ok tidyDescription ∧
      read tidyDescription.toJson = .ok tidyDescription := by
  have readable : read untidyData = .ok tidyDescription := by decide +kernel
  exact ⟨readable, reading_idempotent untidyData tidyDescription readable⟩

end Description

end ProcessDiagram
