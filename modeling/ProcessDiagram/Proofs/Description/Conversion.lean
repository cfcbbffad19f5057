import ProcessDiagram.Description.Reader
import ProcessDiagram.Proofs.Json.Overlong
import ProcessDiagram.Proofs.Table

set_option autoImplicit false

namespace ProcessDiagram.Description

-- A field that is made into a text, or an item of a field that is made into several.
inductive FieldText (texts lists : List String) (fields : Table String Json) (key : String) :
    Json → Prop where
  | text (value : Json) (asked : key ∈ texts) (given : Table.get? key fields = some value) :
      FieldText texts lists fields key value
  | item (items : List Json) (item : Json) (asked : key ∈ lists)
      (given : Table.get? key fields = some (.list items)) (member : item ∈ items)
      (present : item ≠ .null) : FieldText texts lists fields key item

def isEntry : Json → Bool
  | .text _ => true
  | .record _ => true
  | _ => false

-- Entries are counted without what is left out; some lists may be given by a single entry.
inductive EntryAt (single : Bool) : Json → Nat → Json → Prop where
  | listed (items : List Json) (index : Nat) (entry : Json)
      (found : (items.filter isEntry)[index]? = some entry) :
      EntryAt single (.list items) index entry
  | alone (entry : Json) (allowed : single = true) (kept : isEntry entry = true) :
      EntryAt single entry 0 entry

structure EntryList where
  key : String
  single : Bool
  texts : List String
  lists : List String := []

def ownTexts : List String :=
  ["name", "description"]

def stepTexts : List String :=
  ["id", "name", "description", "type", "actor", "duration"]

def gatewayTexts : List String :=
  ["id", "name", "type", "condition"]

def entryLists : List EntryList :=
  [⟨"steps", false, stepTexts, ["inputs", "outputs"]⟩,
   ⟨"gateways", false, gatewayTexts, ["outcomes"]⟩,
   ⟨"start_events", true, ownTexts, []⟩,
   ⟨"end_events", true, ownTexts, []⟩]

inductive Converted (fields : Table String Json) : List String → Json → Prop where
  | own (key : String) (value : Json) (text : FieldText ownTexts [] fields key value) :
      Converted fields [key] value
  | entry (list : EntryList) (listed : list ∈ entryLists) (value : Json)
      (given : Table.get? list.key fields = some value) (index : Nat) (entry : Table String Json)
      (found : EntryAt list.single value index (.record entry)) (key : String) (part : Json)
      (text : FieldText list.texts list.lists entry key part) :
      Converted fields [list.key, toString index, key] part

def Overlong (places : List Place) (path : List String) : Prop :=
  ∃ place ∈ places, place.path = path ∧ place.value.HoldsOverlong

theorem overlong_append (first second : List Place) (path : List String) :
    Overlong (first ++ second) path ↔ Overlong first path ∨ Overlong second path := by
  simp only [Overlong, List.mem_append, or_and_right, exists_or]

theorem field_overlong (fields : Table String Json) (key : String) :
    ((Json.record fields).field key).HoldsOverlong ↔
      ∃ value, Table.get? key fields = some value ∧ value.HoldsOverlong := by
  rw [Json.field]
  cases Table.get? key fields with
  | none => simp [Json.null_not_overlong]
  | some value => simp

theorem items_overlong (value : Json) :
    (Json.list (textItems value)).HoldsOverlong ↔
      ∃ items, value = .list items ∧ ∃ item ∈ items, item ≠ .null ∧ item.HoldsOverlong := by
  rw [Json.list_overlong]
  cases value with
  | list items =>
      simp only [textItems, List.mem_filter, Json.list.injEq, exists_eq_left']
      refine exists_congr fun item => ?_
      cases item <;> simp [Json.isNull]
  | text value =>
      by_cases empty : value = "" <;> simp [textItems, empty, Json.text_not_overlong]
  | _ => simp [textItems]

theorem fields_overlong (texts lists : List String) (fields : Table String Json)
    (path : List String) :
    Overlong (texts.map (textPlace (.record fields)) ++ lists.map (listPlace (.record fields)))
        path ↔
      ∃ key value, FieldText texts lists fields key value ∧ value.HoldsOverlong ∧ [key] = path := by
  rw [overlong_append]
  constructor
  · rintro (⟨_, member, rfl, overlong⟩ | ⟨_, member, rfl, overlong⟩)
    · obtain ⟨key, asked, rfl⟩ := List.mem_map.mp member
      obtain ⟨value, given, holds⟩ := (field_overlong fields key).mp overlong
      exact ⟨key, value, .text value asked given, holds, rfl⟩
    · obtain ⟨key, asked, rfl⟩ := List.mem_map.mp member
      obtain ⟨items, list, item, inside, present, holds⟩ := (items_overlong _).mp overlong
      refine ⟨key, item, .item items item asked ?_ inside present, holds, rfl⟩
      rw [Json.field] at list
      cases given : Table.get? key fields with
      | none => simp [given] at list
      | some value => simpa [given] using list
  · rintro ⟨key, value, text, holds, rfl⟩
    cases text with
    | text _ asked given =>
        exact .inl ⟨_, List.mem_map_of_mem asked, rfl,
          (field_overlong fields key).mpr ⟨value, given, holds⟩⟩
    | item items _ asked given member present =>
        refine .inr ⟨_, List.mem_map_of_mem asked, rfl, ?_⟩
        exact (items_overlong _).mpr ⟨items, by rw [Json.field, given]; rfl, value, member, present,
          holds⟩

theorem entries_kept (items : List Json) (index : Nat) (normal : Json) :
    (items.filterMap entryOf?)[index]? = some normal ↔
      ∃ entry, (items.filter isEntry)[index]? = some entry ∧ entryOf? entry = some normal := by
  induction items generalizing index with
  | nil => simp
  | cons item rest ih =>
      cases kept : entryOf? item with
      | none =>
          have left_out : isEntry item = false := by cases item <;> simp_all [entryOf?, isEntry]
          rw [List.filterMap_cons_none kept, List.filter_cons, left_out]
          exact ih index
      | some entry =>
          have entered : isEntry item = true := by cases item <;> simp_all [entryOf?, isEntry]
          rw [List.filterMap_cons_some kept, List.filter_cons, entered, if_pos rfl]
          cases index with
          | zero => simp [kept]
          | succ index => exact ih index

theorem entries_at (value : Json) (index : Nat) (normal : Json) :
    (entries value)[index]? = some normal ↔
      ∃ entry, EntryAt false value index entry ∧ entryOf? entry = some normal := by
  constructor
  · intro found
    cases value with
    | list items =>
        obtain ⟨entry, kept, same⟩ := (entries_kept items index normal).mp found
        exact ⟨entry, .listed items index entry kept, same⟩
    | _ => simp [entries] at found
  · rintro ⟨entry, place, same⟩
    cases place with
    | listed items _ _ found => exact (entries_kept items index normal).mpr ⟨entry, found, same⟩
    | alone _ allowed => cases allowed

theorem events_at (value : Json) (index : Nat) (normal : Json) :
    (eventEntries value)[index]? = some normal ↔
      ∃ entry, EntryAt true value index entry ∧ entryOf? entry = some normal := by
  constructor
  · intro found
    cases value with
    | list items =>
        obtain ⟨entry, kept, same⟩ := (entries_kept items index normal).mp found
        exact ⟨entry, .listed items index entry kept, same⟩
    | text name =>
        cases index with
        | zero => exact ⟨_, .alone _ rfl rfl, found⟩
        | succ index => simp [eventEntries, entryOf?] at found
    | record fields =>
        cases index with
        | zero => exact ⟨_, .alone _ rfl rfl, found⟩
        | succ index => simp [eventEntries, entryOf?] at found
    | _ => simp [eventEntries, entryOf?] at found
  · rintro ⟨entry, place, same⟩
    cases place with
    | listed items _ _ found => exact (entries_kept items index normal).mpr ⟨entry, found, same⟩
    | alone _ _ kept =>
        cases value with
        | list items => cases kept
        | _ => simp [eventEntries, same]

-- The places of an entry are where texts are made of its fields.
def Asks (places : Json → List Place) (texts lists : List String) : Prop :=
  ∀ fields path, Overlong (places (.record fields)) path ↔
    ∃ key value, FieldText texts lists fields key value ∧ value.HoldsOverlong ∧ [key] = path

theorem events_ask : Asks eventPlaces ownTexts [] := by
  intro fields path
  rw [← fields_overlong]
  simp [eventPlaces, ownTexts]

theorem gateways_ask : Asks gatewayPlaces gatewayTexts ["outcomes"] :=
  fun fields path => fields_overlong gatewayTexts ["outcomes"] fields path

theorem steps_ask : Asks stepPlaces stepTexts ["inputs", "outputs"] := by
  intro fields path
  rw [← fields_overlong]
  simp only [stepPlaces, stepTexts, Overlong, List.map_cons, List.map_nil, List.cons_append,
    List.nil_append, List.mem_cons, List.not_mem_nil, or_false]
  refine exists_congr fun place => and_congr_left fun _ => ?_
  tauto

theorem named_plain (name key : String) (texts lists : List String) (value : Json)
    (text : FieldText texts lists [("name", .text name)] key value) : ¬ value.HoldsOverlong := by
  cases text with
  | text _ _ given =>
      obtain ⟨_, rfl⟩ := Prod.mk.inj (List.mem_singleton.mp (Table.get_mem _ _ _ given))
      exact Json.text_not_overlong name
  | item _ _ _ given => cases List.mem_singleton.mp (Table.get_mem _ _ _ given)

theorem mem_entry_places (key : String) (places : Json → List Place) (entries : List Json)
    (path : List String) :
    Overlong (entryPlaces key places entries) path ↔
      ∃ (index : Nat) (entry : Json) (inner : List String), entries[index]? = some entry ∧
        Overlong (places entry) inner ∧ key :: toString index :: inner = path := by
  simp only [Overlong, entryPlaces, List.mem_flatMap, Prod.exists, List.mem_zipIdx_iff_getElem?,
    List.mem_map]
  constructor
  · rintro ⟨_, ⟨entry, index, found, place, member, rfl⟩, rfl, overlong⟩
    exact ⟨index, entry, place.path, found, ⟨place, member, rfl, overlong⟩, rfl⟩
  · rintro ⟨index, entry, _, found, ⟨place, member, rfl, overlong⟩, rfl⟩
    exact ⟨_, ⟨entry, index, found, place, member, rfl⟩, rfl, overlong⟩

-- A list has an entry with an overlong number in one of its texts.
def ListOverlong (fields : Table String Json) (path : List String) (list : EntryList) : Prop :=
  ∃ value, Table.get? list.key fields = some value ∧
    ∃ index entry key part, EntryAt list.single value index (.record entry) ∧
      FieldText list.texts list.lists entry key part ∧ part.HoldsOverlong ∧
      [list.key, toString index, key] = path

theorem no_entry_of_null (single : Bool) (index : Nat) (entry : Json) :
    ¬ EntryAt single .null index entry := by
  intro place
  cases place with
  | alone _ _ kept => cases kept

theorem list_overlong (fields : Table String Json) (list : EntryList) (places : Json → List Place)
    (entries : Json → List Json) (asks : Asks places list.texts list.lists)
    (kept : ∀ value index normal, (entries value)[index]? = some normal ↔
      ∃ entry, EntryAt list.single value index entry ∧ entryOf? entry = some normal)
    (path : List String) :
    Overlong (entryPlaces list.key places (entries ((Json.record fields).field list.key))) path ↔
      ListOverlong fields path list := by
  rw [mem_entry_places, ListOverlong]
  constructor
  · rintro ⟨index, normal, inner, found, overlong, rfl⟩
    obtain ⟨entry, place, same⟩ := (kept _ index normal).mp found
    rw [Json.field] at place
    cases given : Table.get? list.key fields with
    | none =>
        rw [given] at place
        exact absurd place (no_entry_of_null _ _ _)
    | some value =>
        rw [given] at place
        cases entry with
        | text name =>
            cases same
            obtain ⟨key, part, text, holds, _⟩ := (asks _ _).mp overlong
            exact absurd holds (named_plain name key _ _ part text)
        | record entry =>
            cases same
            obtain ⟨key, part, text, holds, rfl⟩ := (asks _ _).mp overlong
            exact ⟨value, rfl, index, entry, key, part, place, text, holds, rfl⟩
        | _ => cases same
  · rintro ⟨value, given, index, entry, key, part, place, text, holds, rfl⟩
    refine ⟨index, .record entry, [key], (kept _ index _).mpr ⟨.record entry, ?_, rfl⟩,
      (asks entry [key]).mpr ⟨key, part, text, holds, rfl⟩, rfl⟩
    rw [Json.field, given]
    exact place

theorem converted_overlong (fields : Table String Json) (path : List String) :
    (∃ value, Converted fields path value ∧ value.HoldsOverlong) ↔
      (∃ key value, FieldText ownTexts [] fields key value ∧ value.HoldsOverlong ∧ [key] = path) ∨
        ∃ list ∈ entryLists, ListOverlong fields path list := by
  constructor
  · rintro ⟨part, converted, holds⟩
    cases converted with
    | own key _ text => exact .inl ⟨key, part, text, holds, rfl⟩
    | entry list listed value given index entry found key _ text =>
        exact .inr ⟨list, listed, value, given, index, entry, key, part, found, text, holds, rfl⟩
  · rintro (⟨key, value, text, holds, rfl⟩ |
      ⟨list, listed, value, given, index, entry, key, part, found, text, holds, rfl⟩)
    · exact ⟨value, .own key value text, holds⟩
    · exact ⟨part, .entry list listed value given index entry found key part text, holds⟩

theorem places_overlong (fields : Table String Json) (path : List String) :
    Overlong (places (.record fields)) path ↔
      ∃ value, Converted fields path value ∧ value.HoldsOverlong := by
  have own := fields_overlong ownTexts [] fields path
  have steps := list_overlong fields ⟨"steps", false, stepTexts, ["inputs", "outputs"]⟩ stepPlaces
    entries steps_ask entries_at path
  have gateways := list_overlong fields ⟨"gateways", false, gatewayTexts, ["outcomes"]⟩
    gatewayPlaces entries gateways_ask entries_at path
  have starts := list_overlong fields ⟨"start_events", true, ownTexts, []⟩ eventPlaces eventEntries
    events_ask events_at path
  have ends := list_overlong fields ⟨"end_events", true, ownTexts, []⟩ eventPlaces eventEntries
    events_ask events_at path
  rw [List.map_nil, List.append_nil, ownTexts] at own
  rw [places, overlong_append, overlong_append, overlong_append, overlong_append, own, steps,
    gateways, starts, ends, converted_overlong]
  simp only [entryLists, ownTexts, List.exists_mem_cons_iff, List.not_mem_nil, false_and,
    exists_false, or_false, or_assoc]

theorem mem_faults (fields : Table String Json) (fault : Fault) :
    fault ∈ faults (.record fields) ↔
      ∃ path value, Converted fields path value ∧ value.HoldsOverlong ∧
        fault = ⟨path, .overlong⟩ := by
  have listed : fault ∈ faults (.record fields) ↔
      ∃ path, Overlong (places (.record fields)) path ∧ fault = ⟨path, .overlong⟩ := by
    simp only [faults, List.mem_map, List.mem_filter, Json.has_overlong_iff, Overlong]
    constructor
    · rintro ⟨place, ⟨member, overlong⟩, rfl⟩
      exact ⟨place.path, ⟨place, member, rfl, overlong⟩, rfl⟩
    · rintro ⟨_, ⟨place, member, rfl, overlong⟩, rfl⟩
      exact ⟨place, ⟨member, overlong⟩, rfl⟩
  rw [listed]
  refine exists_congr fun path => ?_
  rw [places_overlong, ← exists_and_right]
  exact exists_congr fun value => and_assoc

theorem read_faults (fields : Table String Json) (found : List Fault)
    (failed : read (.record fields) = .error found) : found = faults (.record fields) := by
  rw [read] at failed
  split at failed
  · cases failed
  · exact (Except.error.inj failed).symm

theorem read_faultless (fields : Table String Json) (faultless : faults (.record fields) = []) :
    read (.record fields) = .ok (ofRecord (.record fields)) := by
  rw [read, faultless]

theorem read_fails_iff (fields : Table String Json) :
    (∃ found, read (.record fields) = .error found) ↔
      ∃ path value, Converted fields path value ∧ value.HoldsOverlong := by
  constructor
  · rintro ⟨found, failed⟩
    cases listed : faults (.record fields) with
    | nil =>
        rw [read_faultless fields listed] at failed
        cases failed
    | cons fault rest =>
        have member : fault ∈ faults (.record fields) := by simp [listed]
        obtain ⟨path, value, converted, holds, _⟩ := (mem_faults fields fault).mp member
        exact ⟨path, value, converted, holds⟩
  · rintro ⟨path, value, converted, holds⟩
    have member := (mem_faults fields ⟨path, .overlong⟩).mpr ⟨path, value, converted, holds, rfl⟩
    rw [read]
    split
    · rename_i listed
      rw [listed] at member
      cases member
    · exact ⟨_, rfl⟩

theorem text_inside (texts lists : List String) (fields : Table String Json) (key : String)
    (value : Json) (text : FieldText texts lists fields key value) :
    (Json.record fields).Holds value := by
  cases text with
  | text _ _ given =>
      exact .field fields key value value (Table.get_mem _ _ _ given) (.itself value)
  | item items _ _ given member _ =>
      exact .field fields key (.list items) value (Table.get_mem _ _ _ given)
        (.item items value value member (.itself value))

theorem entry_inside (single : Bool) (value entry : Json) (index : Nat)
    (place : EntryAt single value index entry) : value.Holds entry := by
  cases place with
  | listed items _ _ found =>
      have member := (List.mem_filter.mp (List.mem_of_getElem? found)).1
      exact .item items entry entry member (.itself entry)
  | alone => exact .itself value

theorem converted_inside (fields : Table String Json) (path : List String) (part : Json)
    (converted : Converted fields path part) : (Json.record fields).Holds part := by
  cases converted with
  | own key _ text => exact text_inside _ _ fields key part text
  | entry list _ value given index entry found key _ text =>
      refine .field fields list.key value part (Table.get_mem _ _ _ given) ?_
      exact (entry_inside _ value _ index found).trans _ _ _ (text_inside _ _ entry key part text)

theorem plain_readable (fields : Table String Json) (plain : ¬ (Json.record fields).HoldsOverlong) :
    read (.record fields) = .ok (ofRecord (.record fields)) := by
  apply read_faultless
  rw [List.eq_nil_iff_forall_not_mem]
  intro fault member
  obtain ⟨path, value, converted, holds, _⟩ := (mem_faults fields fault).mp member
  exact plain ((converted_inside fields path value converted).overlong _ _ holds)

end ProcessDiagram.Description
