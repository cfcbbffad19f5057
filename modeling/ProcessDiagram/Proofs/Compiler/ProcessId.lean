import ProcessDiagram.Proofs.Compiler.Outcome
import ProcessDiagram.Proofs.Identifier.Sanitized
import ProcessDiagram.Proofs.Identifier.Token

set_option autoImplicit false

namespace ProcessDiagram

namespace Identifier

theorem sanitize_kept (chars word : List Char) (same : sanitizeChars chars = word)
    (plain : '_' ∉ word) (short : word.length < maxLength) : chars = word := by
  have clean : ∀ chars word : List Char, chars.map cleanChar = word → '_' ∉ word →
      chars = word := by
    intro chars
    induction chars with
    | nil => exact fun word same _ => same
    | cons first rest ih =>
        rintro _ rfl plain
        rw [List.map_cons, List.mem_cons, not_or] at plain
        have kept : cleanChar first = first := by
          rw [cleanChar] at plain ⊢
          split at plain
          · rw [if_pos ‹_›]
          · exact absurd rfl plain.1
        rw [List.map_cons, kept, ← ih _ rfl plain.2]
  cases chars with
  | nil =>
      rw [← same] at plain
      exact absurd List.mem_cons_self plain
  | cons first rest =>
      rw [sanitizeChars] at same
      have whole : ((if isFirstChar first then first else '_') :: rest.map cleanChar).length ≤
          maxLength := by
        rw [← same, List.length_take] at short
        omega
      rw [List.take_of_length_le whole] at same
      subst same
      rw [List.mem_cons, not_or] at plain
      rw [← clean rest _ rfl plain.2]
      by_cases good : isFirstChar first
      · rw [if_pos good]
      · rw [if_neg good] at plain
        exact absurd rfl plain.1

theorem sanitized_length (chars : List Char) :
    (String.ofList (sanitizeChars chars)).length ≤ maxLength := by
  rw [← String.length_toList, String.toList_ofList, sanitized_size]
  exact Nat.min_le_left _ _

end Identifier

namespace Allocator

open Identifier (maxLength tokenLength)

def processWord : String := "Process"

def fallbackId (token : String) : String :=
  "Process_" ++ token

theorem fallback_chars (token : String) :
    (fallbackId token).toList = processWord.toList ++ '_' :: token.toList := by
  rw [fallbackId, String.toList_append]
  rfl

theorem base_fallback (token stem : String) (valid : IsToken token) :
    base token stem = fallbackId token ↔ stem = processWord := by
  constructor
  · intro same
    have chars := congrArg String.toList same
    rw [base_tagged token stem valid, tagged_chars, fallback_chars] at chars
    have word := List.append_cancel_right chars
    rw [stemPart, String.toList_ofList] at word
    have whole : (Identifier.sanitizeChars stem.toList).length ≤ maxLength - tokenLength - 1 := by
      have size := congrArg List.length word
      have short : processWord.toList.length = 7 := by decide
      rw [List.length_take, short, maxLength, tokenLength] at size
      rw [maxLength, tokenLength]
      omega
    rw [List.take_of_length_le whole] at word
    exact String.toList_injective (Identifier.sanitize_kept _ _ word (by decide) (by decide))
  · rintro rfl
    apply String.toList_injective
    rw [base_tagged token _ valid, tagged_chars, fallback_chars]
    congr 1

theorem numbered_fallback (token stem : String) (valid : IsToken token) (number : Nat) :
    numbered (base token stem) number ≠ fallbackId token := by
  intro same
  have chars := congrArg String.toList same
  rw [fallback_chars, numbered, String.toList_ofList, withTail] at chars
  have digits := tail_injective _ _ _ _ (number_plain number) (token_plain token valid) chars
  have tail : ('_' :: Nat.toDigits 10 number).length = tokenLength + 1 := by
    rw [digits, List.length_cons, String.length_toList, valid.length]
  have size := congrArg List.length chars
  rw [← withTail, with_tail_eq _ _ (by rw [tail]; decide), tail, base_tagged token stem valid,
    tagged_chars] at size
  simp only [List.length_append, List.length_take, List.length_cons, digits, String.length_toList,
    valid.length, maxLength, tokenLength] at size
  have short : processWord.length = 7 := by decide
  omega

theorem allocate_fallback (ids : Allocator) (stem : String) (valid : IsToken ids.token) :
    fallbackId ids.token ∈ (ids.allocate stem).2.used ↔
      fallbackId ids.token ∈ ids.used ∨ stem = processWord := by
  rw [allocate_used, List.mem_cons, ← base_fallback ids.token stem valid, allocate]
  by_cases taken : base ids.token stem ∈ ids.used
  · obtain ⟨number, chosen, _⟩ := next_free_numbered ids.used (base ids.token stem)
      ids.used.length ((Table.get? (base ids.token stem) ids.counters).getD 1)
    have apart := numbered_fallback ids.token stem valid number
    simp only [if_pos taken, chosen]
    constructor
    · rintro (same | old)
      · exact absurd same.symm apart
      · exact .inl old
    · rintro (old | same)
      · exact .inr old
      · exact .inr (same ▸ taken)
  · simp only [if_neg taken]
    rw [or_comm, eq_comm]

end Allocator

namespace Draft

open Allocator (IsToken fallbackId processWord)

-- All used ids are those of nodes, and the fallback is one of them under the given condition.
structure TakenIf (token : String) (taken : Prop) (draft : Draft) : Prop where
  kept : draft.ids.token = token
  used : ∀ id, id ∈ draft.ids.used ↔ id ∈ draft.nodes.map Node.elementId
  fallback : fallbackId token ∈ draft.ids.used ↔ taken

theorem taken_empty (token : String) : TakenIf token False (empty token) :=
  ⟨rfl, fun _ => Iff.rfl, iff_of_false List.not_mem_nil id⟩

variable (token : String) (valid : IsToken token) (taken : Prop) (draft : Draft)
  (told : TakenIf token taken draft)

include told

theorem taken_connect (source target : String) (condition : Option String) :
    TakenIf token taken (draft.connect source target condition) :=
  ⟨told.kept, told.used, told.fallback⟩

include valid

theorem taken_add (kind : NodeKind) (label stem : String) (role : Option String)
    (documentation actor : String) :
    TakenIf token (taken ∨ stem = processWord)
      (draft.addNode kind label stem role documentation actor) := by
  have used : (draft.addNode kind label stem role documentation actor).ids.used =
      (draft.ids.allocate stem).1 :: draft.ids.used := Allocator.allocate_used draft.ids stem
  have fallback := Allocator.allocate_fallback draft.ids stem (told.kept ▸ valid)
  rw [told.kept, told.fallback] at fallback
  constructor
  · exact (Allocator.allocate_token draft.ids stem).trans told.kept
  · intro id
    rw [used, nodes_add, List.map_append, List.mem_append, List.mem_cons, told.used, or_comm]
    exact or_congr_right List.mem_singleton.symm
  · exact fallback

theorem taken_other (kind : NodeKind) (label stem : String) (role : Option String)
    (documentation actor : String) (other : stem ≠ processWord) :
    TakenIf token taken (draft.addNode kind label stem role documentation actor) := by
  have added := taken_add token valid taken draft told kind label stem role documentation actor
  rwa [or_iff_left other] at added

end Draft

namespace Chain

open Allocator (IsToken fallbackId processWord)
open Draft (TakenIf)

theorem front_apart (front back : String) (c : Char) (head : front.toList[0]? = some c)
    (apart : c ≠ 'P') : front ++ back ≠ processWord := fun same =>
  Validation.fronts_apart front processWord back "" 0 c 'P' head rfl apart
    (same.trans String.append_empty.symm)

theorem stem_process (step : Step) (number : Nat) :
    stemOf step number = processWord ↔ step.id = some processWord := by
  have counted : "step_" ++ toString number ≠ processWord :=
    front_apart "step_" (toString number) 's' rfl (by decide)
  rw [stemOf]
  cases step.id with
  | none => exact iff_of_false counted nofun
  | some id =>
      by_cases empty : id = ""
      · subst empty
        exact iff_of_false counted (by decide)
      · simp only [if_neg empty, Option.some.injEq]

variable (token : String) (valid : IsToken token) (taken : Prop) (chain : Chain)
  (told : TakenIf token taken chain.draft)

include valid told

theorem taken_extend (kind : NodeKind) (label stem : String) (role : Option String)
    (documentation actor : String) :
    TakenIf token (taken ∨ stem = processWord)
      (chain.extend kind label stem role documentation actor).draft :=
  Draft.taken_connect token _ _
    (Draft.taken_add token valid taken chain.draft told kind label stem role documentation actor) _ _ _

theorem taken_branches (gateway : Gateway) :
    TakenIf token taken (chain.branchOut gateway).draft := by
  rw [branchOut]
  split
  · exact told
  · rename_i first others _
    have ends : ∀ (outcomes : List String) (draft : Draft), TakenIf token taken draft →
        TakenIf token taken (outcomes.foldl (endBranch gateway.kind chain.last) draft) := by
      intro outcomes
      induction outcomes with
      | nil => exact fun draft told => told
      | cons outcome rest ih =>
          intro draft told
          have other := front_apart "EndEvent_" outcome 'E' rfl (by decide)
          exact ih _ (Draft.taken_connect token taken _
            (Draft.taken_other token valid taken draft told _ _ _ _ _ _ other) _ _ _)
    exact ends others chain.draft told

theorem taken_step (gateways : List Gateway) (entry : Step × Nat) :
    TakenIf token (taken ∨ entry.1.id = some processWord) (addStep gateways chain entry).draft := by
  obtain ⟨step, index⟩ := entry
  have extended := fun kind => taken_extend token valid taken chain told kind step.name
    (stemOf step (index + 1)) none step.description step.actor
  simp only [stem_process] at extended
  rw [addStep]
  cases Description.gatewayOf? gateways step with
  | none => exact extended _
  | some gateway => exact taken_branches token valid _ _ (extended _) gateway

theorem taken_steps (gateways : List Gateway) (entries : List (Step × Nat)) :
    TakenIf token (taken ∨ ∃ entry ∈ entries, entry.1.id = some processWord)
      (entries.foldl (addStep gateways) chain).draft := by
  induction entries generalizing chain taken with
  | nil => simpa using told
  | cons entry rest ih =>
      have later := ih _ _ (taken_step token valid taken chain told gateways entry)
      rw [List.foldl_cons]
      simpa only [List.exists_mem_cons_iff, or_assoc] using later

omit told in
theorem taken_generic (description : Description) (honorGateways : Bool) :
    fallbackId token ∈
        (Graph.generic description honorGateways token).nodes.map Node.elementId ↔
      ∃ step ∈ description.steps, step.id = some processWord := by
  have begun : TakenIf token False (start (.empty token) description.startLabel).draft :=
    Draft.taken_other token valid False _ (Draft.taken_empty token) _ _ _ _ _ _ (by decide)
  have walked := taken_steps token valid False _ begun
    (if honorGateways then description.gateways else []) description.steps.zipIdx
  have ended := taken_extend token valid _ _ walked .endEvent description.endLabel "EndEvent"
    (some "end") "" ""
  have other : "EndEvent" ≠ processWord := by decide
  have steps : (∃ entry ∈ description.steps.zipIdx, entry.1.id = some processWord) ↔
      ∃ step ∈ description.steps, step.id = some processWord := by
    constructor
    · rintro ⟨entry, member, named⟩
      exact ⟨entry.1, List.fst_mem_of_mem_zipIdx member, named⟩
    · rintro ⟨step, member, named⟩
      obtain ⟨index, bound, rfl⟩ := List.mem_iff_getElem.mp member
      exact ⟨(description.steps[index], index),
        List.mem_zipIdx_iff_getElem?.mpr (by simp [bound]), named⟩
  rw [false_or, or_iff_left other, steps] at ended
  exact (ended.used _).symm.trans ended.fallback

end Chain

namespace Archetype

open Allocator (IsToken fallbackId processWord)
open Draft (TakenIf)

theorem stems_apart : ∀ shape ∈ shapes, ∀ place ∈ shape.places, place.stem ≠ processWord := by
  decide

variable (token : String) (valid : IsToken token) (description : Description)

theorem recipe_known {Coordinate : Type} (coordinate : Int → Coordinate)
    (archetype : Archetype Coordinate) (known : archetype ∈ catalog coordinate) :
    ∃ shape ∈ shapes, archetype.recipe = shape.recipe := by
  simp only [catalog, List.mem_cons, List.not_mem_nil, or_false] at known
  rcases known with rfl | rfl
  · exact ⟨Invoice.shape, List.mem_cons_self, rfl⟩
  · exact ⟨Expense.shape, List.mem_cons_of_mem _ List.mem_cons_self, rfl⟩

include valid

theorem place_apart (taken : Prop) (draft : Draft) (told : TakenIf token taken draft)
    (place : Shape.Place) (apart : place.stem ≠ processWord) :
    TakenIf token taken (place.action.run description draft) := by
  have added := fun role documentation actor kind =>
    Draft.taken_other token valid taken draft told kind place.label place.stem role documentation
      actor apart
  rw [Shape.Place.action]
  by_cases task : place.kind = .task
  · rw [if_pos task, Action.run]
    split
    · exact added _ _ _ _
    · exact added _ _ _ _
  · rw [if_neg task]
    exact added _ _ _ _

theorem shape_apart (shape : Shape) (member : shape ∈ shapes) :
    TakenIf token False (shape.actions.foldl (Action.run description) (.empty token)) := by
  have places : ∀ (places : List Shape.Place) (draft : Draft),
      (∀ place ∈ places, place.stem ≠ processWord) → TakenIf token False draft →
        TakenIf token False
          ((places.map Shape.Place.action).foldl (Action.run description) draft) := by
    intro places
    induction places with
    | nil => exact fun draft _ told => told
    | cons place rest ih =>
        intro draft apart told
        obtain ⟨first, others⟩ := List.forall_mem_cons.mp apart
        exact ih _ others (place_apart token valid description False draft told place first)
  have flows : ∀ (flows : List Shape.Flow) (draft : Draft), TakenIf token False draft →
      TakenIf token False
        ((flows.map (Shape.Flow.action shape)).foldl (Action.run description) draft) := by
    intro flows
    induction flows with
    | nil => exact fun draft told => told
    | cons flow rest ih =>
        exact fun draft told => ih _ (Draft.taken_connect token False draft told _ _ _)
  rw [Shape.actions, List.foldl_append]
  exact flows _ _ (places _ _ (stems_apart shape member) (Draft.taken_empty token))

end Archetype

namespace Compilation

open Allocator (IsToken fallbackId processWord)
open Identifier (IsName maxLength)

theorem fallback_taken (honorGateways : Bool) (description : Description) (token : String)
    (valid : IsToken token) (graph : Graph)
    (found : Graph.ofDescription defaultArchetypes honorGateways description token = .ok graph) :
    fallbackId token ∈ graph.nodes.map Node.elementId ↔
      Archetype.find? defaultArchetypes description = none ∧
        ∃ step ∈ description.steps, step.id = some processWord := by
  rw [Graph.ofDescription] at found
  split at found
  · rename_i archetype chosen
    obtain ⟨built, shaped, checked⟩ := Each.bind_ok _ _ _ found
    obtain ⟨rfl, _⟩ := Graph.checked_clean _ _ _ checked
    rw [Each.renamed_ok, Graph.ofArchetype] at shaped
    obtain ⟨draft, run, same⟩ := Each.bind_ok _ _ _ shaped
    cases same
    obtain ⟨shape, member, recipe⟩ := Archetype.recipe_known Float.ofInt archetype
      (List.mem_of_find?_eq_some chosen)
    rw [Archetype.runRecipe, recipe, Shape.recipe, Archetype.run_all] at run
    cases run
    have told := Archetype.shape_apart token valid description shape member
    rw [chosen]
    refine iff_of_false ?_ fun both => Option.some_ne_none _ both.1
    exact fun inside => told.fallback.mp ((told.used _).mpr inside)
  · rename_i chosen
    obtain ⟨rfl, _⟩ := Graph.checked_clean _ _ _ found
    rw [chosen, Chain.taken_generic token valid description honorGateways]
    exact (and_iff_right rfl).symm

theorem process_id_valid (name : String) (graph : Graph) (token : String) (valid : IsToken token) :
    IsName (processIdOf name graph token).toList ∧
      (processIdOf name graph token).length ≤ maxLength := by
  have named := process_id_named name graph token valid.hex
  rw [processIdOf] at named ⊢
  split at named
  · rename_i replaced
    rw [if_pos replaced]
    constructor
    · have chars : ("Process_" ++ token).toList = 'P' :: ("rocess_".toList ++ token.toList) := by
        rw [String.toList_append]
        rfl
      rw [Identifier.Named, chars] at named
      rw [chars]
      exact ⟨by decide, fun c later => named c (List.mem_cons_of_mem _ later)⟩
    · rw [String.length_append, valid.length]
      decide
  · rename_i free
    rw [if_neg free, Identifier.sanitize]
    refine ⟨?_, Identifier.sanitized_length _⟩
    rw [String.toList_ofList]
    exact Identifier.sanitized_name _

theorem process_id_taken (name : String) (graph : Graph) (token : String) :
    processIdOf name graph token ∈ graph.nodes.map Node.elementId ↔
      fallbackId token ∈ graph.nodes.map Node.elementId ∧
        (Text.strip name = "" ∨ Identifier.sanitize name ∈ graph.nodes.map Node.elementId) := by
  rw [processIdOf]
  by_cases replaced :
      Text.strip name = "" ∨ Identifier.sanitize name ∈ graph.nodes.map Node.elementId
  · rw [if_pos (by simpa using replaced)]
    exact (and_iff_left replaced).symm
  · rw [if_neg (by simpa using replaced)]
    exact iff_of_false (fun inside => replaced (.inr inside)) fun both => replaced both.2

/-- A process has the id of a node exactly when its name gives it no other and a step has the id that is
made up instead. -/
theorem process_id_taken_iff (description : Description) (token : String) (valid : IsToken token)
    (honorGateways : Bool) :
    ∃ graph,
      Graph.ofDescription defaultArchetypes honorGateways description token = .ok graph ∧
      IsName (processIdOf description.name graph token).toList ∧
      (processIdOf description.name graph token).length ≤ maxLength ∧
      (processIdOf description.name graph token ∈ graph.nodes.map Node.elementId ↔
        (Archetype.find? defaultArchetypes description = none ∧
          ∃ step ∈ description.steps, step.id = some "Process") ∧
        (Text.strip description.name = "" ∨
          Identifier.sanitize description.name ∈ graph.nodes.map Node.elementId)) := by
  have nonempty : token.toList ≠ [] := by
    intro none
    have size := valid.length
    rw [← String.length_toList, none] at size
    cases size
  obtain ⟨graph, found, _⟩ :=
    Graph.description_built Float.ofInt honorGateways description token valid.hex nonempty
  obtain ⟨name, short⟩ := process_id_valid description.name graph token valid
  have taken := process_id_taken description.name graph token
  rw [fallback_taken honorGateways description token valid graph found] at taken
  refine ⟨graph, found, ?_⟩
  -- From here on it does not matter what the id of the process is made of.
  generalize processIdOf description.name graph token = processId at name short taken ⊢
  exact ⟨name, short, taken⟩

/-- One step, which takes the id that a process without a name would get. -/
def processStep : Description where
  steps := [{ id := some "Process" }]

theorem process_step_takes_id :
    IsToken "00000000" ∧ ∃ graph,
      Graph.ofDescription defaultArchetypes false processStep "00000000" = .ok graph ∧
      processIdOf processStep.name graph "00000000" ∈ graph.nodes.map Node.elementId := by
  have valid : IsToken "00000000" := ⟨List.all_eq_true.mp (by decide), by decide⟩
  obtain ⟨graph, found, _, _, taken⟩ := process_id_taken_iff processStep "00000000" valid false
  exact ⟨valid, graph, found, taken.mpr ⟨⟨rfl, _, List.mem_cons_self, rfl⟩, .inl rfl⟩⟩

end Compilation

end ProcessDiagram
