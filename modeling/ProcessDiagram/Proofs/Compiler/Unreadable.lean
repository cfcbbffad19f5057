import ProcessDiagram.Proofs.Compiler.Failure
import ProcessDiagram.Proofs.Description.Conversion
import ProcessDiagram.Proofs.Identifier.Token

set_option autoImplicit false

namespace ProcessDiagram

namespace Allocator

theorem free_allocated (ids : Allocator) (stem : String) (valid : IsToken ids.token)
    (free : tagged ids.token stem ∉ ids.used) : (ids.allocate stem).1 = tagged ids.token stem := by
  rw [allocate, base_tagged ids.token stem valid, if_neg free]

end Allocator

namespace Chain

theorem start_elements (draft : Draft) (label : String) :
    (start draft label).draft.nodes.map Node.elementId =
      draft.nodes.map Node.elementId ++ [(draft.ids.allocate "StartEvent").1] :=
  List.map_append

theorem start_ids (draft : Draft) (label : String) :
    (start draft label).draft.ids = (draft.ids.allocate "StartEvent").2 := rfl

theorem finish_elements (chain : Chain) (label : String) :
    (chain.finish label).nodes.map Node.elementId =
      chain.draft.nodes.map Node.elementId ++ [(chain.draft.ids.allocate "EndEvent").1] :=
  List.map_append

end Chain

namespace Graph

open Allocator (IsToken)
open Validation (Clear fronts_apart flow_front ends_append ends_chars ends_not_drawn)

theorem empty_elements (honorGateways : Bool) (token : String) (valid : IsToken token) :
    (generic {} honorGateways token).nodes.map Node.elementId =
      ["StartEvent_" ++ token, "EndEvent_" ++ token] := by
  have shape : generic {} honorGateways token =
      ((Chain.start (.empty token) "Start").finish "End").graph "" := rfl
  have start : ((Draft.empty token).ids.allocate "StartEvent").1 = "StartEvent_" ++ token :=
    Allocator.free_allocated _ _ valid List.not_mem_nil
  have used : ((Draft.empty token).ids.allocate "StartEvent").2.used =
      ["StartEvent_" ++ token] := by
    rw [Allocator.allocate_used, start]
    rfl
  have kept : ((Draft.empty token).ids.allocate "StartEvent").2.token = token :=
    Allocator.allocate_token _ _
  have free : "EndEvent_" ++ token ∉ ["StartEvent_" ++ token] := by
    rw [List.mem_singleton]
    exact fronts_apart "EndEvent_" "StartEvent_" token token 0 'E' 'S' rfl rfl (by decide)
  have finish : (((Draft.empty token).ids.allocate "StartEvent").2.allocate "EndEvent").1 =
      "EndEvent_" ++ token := by
    rw [Allocator.free_allocated _ _ (kept ▸ valid) (by rw [used, kept]; exact free), kept]
    rfl
  rw [shape, Draft.graph, Chain.finish_elements, Chain.start_elements, Chain.start_ids, start,
    finish]
  rfl

theorem empty_clear (honorGateways : Bool) (token : String) (valid : IsToken token) :
    Clear ("Process_" ++ token) token (generic {} honorGateways token) := by
  have unreserved : ∀ front : String, ∀ c : Char, front.toList[0]? = some c →
      c ≠ 'D' → c ≠ 'B' → c ≠ 'F' →
      front ++ token ∉ Validation.reservedIds token (generic {} honorGateways token) := by
    intro front c first document diagram flow
    rw [Validation.reservedIds, List.mem_cons, List.mem_cons, List.mem_cons, not_or, not_or, not_or]
    exact ⟨fronts_apart front "Definitions_" token token 0 c 'D' first rfl document,
      fronts_apart front "BPMNDiagram_" token token 0 c 'B' first rfl diagram,
      fronts_apart front "BPMNPlane_" token token 0 c 'B' first rfl diagram,
      flow_front front token token c first flow _⟩
  constructor
  · rw [empty_elements honorGateways token valid]
    intro id member
    rcases List.mem_pair.mp member with rfl | rfl
    · exact unreserved "StartEvent_" 'S' rfl (by decide) (by decide) (by decide)
    · exact unreserved "EndEvent_" 'E' rfl (by decide) (by decide) (by decide)
  · rw [List.mem_append, List.mem_append, not_or, not_or]
    refine ⟨?_, unreserved "Process_" 'P' rfl (by decide) (by decide) (by decide), ?_⟩
    · rw [empty_elements honorGateways token valid, List.mem_pair, not_or]
      exact ⟨fronts_apart "Process_" "StartEvent_" token token 0 'P' 'S' rfl rfl (by decide),
        fronts_apart "Process_" "EndEvent_" token token 0 'P' 'E' rfl rfl (by decide)⟩
    · intro member
      obtain ⟨other, _, same⟩ := List.mem_map.mp member
      exact ends_not_drawn _ other (ends_append "Process_" token
        (ends_chars token valid.hex valid.nonempty)) same.symm

end Graph

namespace Compilation

open Description (Converted read)
open Document (Worded metadata)
open Identifier (isHex)

theorem empty_compiles (config : Config) (digits : String) (long : digits.length = 32)
    (hex : ∀ c ∈ digits.toList, isHex c) (worded : Worded (metadata config.document)) :
    ∃ result, compile config defaultArchetypes (.record []) digits = .ok result := by
  have valid : Allocator.IsToken (Identifier.tokenOf digits) :=
    ⟨Identifier.token_hex digits hex, token_length digits long⟩
  have nonempty := token_nonempty digits long
  have clear := Graph.empty_clear config.honorGateways _ valid
  have built := Graph.generic_built {} config.honorGateways _ valid.hex nonempty
  have distinct := (Validation.ids_distinct_iff _ _ _ built valid.hex nonempty).mpr clear
  exact generic_compiles config defaultArchetypes (.record []) digits long hex rfl worded distinct

theorem empty_counted (data : Json) (empty : descriptionOf data = {}) (config : Config)
    (archetypes : Archetypes) (digits : String) :
    compile config archetypes data digits = compile config archetypes (.record []) digits := by
  rw [compile_described, compile_described, empty]
  rfl

theorem unreadable_empty (data : Json) (found : List Fault) (failed : read data = .error found) :
    descriptionOf data = {} := by
  rw [descriptionOf, failed]
  rfl

theorem other_empty (data : Json) (other : ∀ fields, data ≠ .record fields) :
    read data = .ok {} := by
  cases data with
  | record fields => exact absurd rfl (other fields)
  | _ => rfl

def Unreadable (fields : Table String Json) : Prop :=
  ∃ path value, Converted fields path value ∧ value.HoldsOverlong

/-- Data without a text where one is made, or that is no record, is compiled as a record without fields,
and nothing but the texts of the settings keeps that from being compiled. -/
theorem unreadable_counts_as_empty :
    (∀ fields,
      ((∃ found, read (.record fields) = .error found) ↔ Unreadable fields) ∧
      ((∃ description, read (.record fields) = .ok description) ↔ ¬ Unreadable fields) ∧
      ∀ found, read (.record fields) = .error found →
        (∀ fault, fault ∈ found ↔ ∃ path value, Converted fields path value ∧
          value.HoldsOverlong ∧ fault = ⟨path, .overlong⟩) ∧
        ∀ config archetypes digits, compile config archetypes (.record fields) digits =
          compile config archetypes (.record []) digits) ∧
    (∀ data, (∀ fields, data ≠ .record fields) →
      (∃ description, read data = .ok description) ∧
      ∀ config archetypes digits, compile config archetypes data digits =
        compile config archetypes (.record []) digits) ∧
    ∀ config : Config, Worded (metadata config.document) →
      ∀ digits, digits.length = 32 → (∀ c ∈ digits.toList, isHex c) →
        ∃ result, compile config defaultArchetypes (.record []) digits = .ok result := by
  refine ⟨?_, ?_, ?_⟩
  · intro fields
    have fails := Description.read_fails_iff fields
    refine ⟨fails, ?_, ?_⟩
    · rw [Unreadable, ← fails]
      cases outcome : read (.record fields) with
      | ok description => simp
      | error found => simp
    · intro found failed
      refine ⟨?_, empty_counted _ (unreadable_empty _ found failed)⟩
      rw [Description.read_faults fields found failed]
      exact Description.mem_faults fields
  · intro data other
    have readable := other_empty data other
    refine ⟨⟨_, readable⟩, empty_counted data ?_⟩
    rw [descriptionOf, readable]
    rfl
  · intro config worded digits long hex
    exact empty_compiles config digits long hex worded

def longNumber : Int :=
  (10 ^ Json.maxDigits : Nat)

theorem long_number_overlong : (Json.integer longNumber).HoldsOverlong := by
  rw [Json.integer_overlong, longNumber, Int.natAbs_natCast]
  exact (Nat.lt_digits_length_iff (by decide) _).mpr (Nat.le_refl _)

/-- A number that is too long, deep inside an input of a step, behind an entry that is left out and
one that is a name. -/
def deepNumber : Table String Json :=
  [("name", .integer 7), ("steps", .list [.null, .text "Write",
    .record [("inputs", .list [.null, .record [("form", .list [.integer longNumber])]])]])]

theorem deep_number_converted :
    Converted deepNumber ["steps", "1", "inputs"]
      (.record [("form", .list [.integer longNumber])]) :=
  .entry ⟨"steps", false, Description.stepTexts, ["inputs", "outputs"]⟩ List.mem_cons_self _ rfl 1 _
    (.listed _ 1 _ rfl) "inputs" _ (.item _ _ List.mem_cons_self rfl (by simp) (by simp))

theorem deep_number_counts_as_empty :
    ∃ found result, read (.record deepNumber) = .error found ∧
      ⟨["steps", "1", "inputs"], .overlong⟩ ∈ found ∧
      compile {} defaultArchetypes (.record deepNumber) zeros = .ok result ∧
      compile {} defaultArchetypes (.record []) zeros = .ok result ∧
      compile {} defaultArchetypes (.list [.record deepNumber]) zeros = .ok result := by
  obtain ⟨records, others, empty⟩ := unreadable_counts_as_empty
  obtain ⟨fails, _, failure⟩ := records deepNumber
  have overlong : (Json.record [("form", .list [.integer longNumber])]).HoldsOverlong :=
    (Json.record_overlong _).mpr ⟨_, List.mem_cons_self,
      (Json.list_overlong _).mpr ⟨_, List.mem_cons_self, long_number_overlong⟩⟩
  obtain ⟨found, failed⟩ := fails.mpr ⟨_, _, deep_number_converted, overlong⟩
  obtain ⟨told, same⟩ := failure found failed
  obtain ⟨_, alike⟩ := others (.list [.record deepNumber]) (fun _ => nofun)
  have worded : Worded (metadata ({} : Config).document) :=
    (Document.worded_texts [_, _, _]).mpr (by decide)
  obtain ⟨result, compiled⟩ := empty {} worded zeros (by decide) (List.all_eq_true.mp (by decide))
  refine ⟨found, result, failed, (told _).mpr ⟨_, _, deep_number_converted, overlong, rfl⟩, ?_,
    compiled, ?_⟩
  · rw [same, compiled]
  · rw [alike, compiled]

end Compilation

end ProcessDiagram
