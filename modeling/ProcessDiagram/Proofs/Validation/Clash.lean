import ProcessDiagram.Proofs.Graph.Construction
import ProcessDiagram.Proofs.Validation.Ids

set_option autoImplicit false

namespace ProcessDiagram.Validation

open Allocator (Issued)
open Identifier (isHex EndsHex)

-- The ids that a document gives away by itself, whatever ids the nodes have.
def reservedIds (token : String) (graph : Graph) : List String :=
  ("Definitions_" ++ token) :: ("BPMNDiagram_" ++ token) :: ("BPMNPlane_" ++ token) ::
    flowIds token graph

def drawnIds (token : String) (graph : Graph) : List String :=
  (graph.nodes.map Node.elementId ++ flowIds token graph).map drawnId

structure Clear (processId token : String) (graph : Graph) : Prop where
  elements : ∀ id ∈ graph.nodes.map Node.elementId, id ∉ reservedIds token graph
  process : processId ∉ graph.nodes.map Node.elementId ++
    (reservedIds token graph ++ drawnIds token graph)

theorem ids_perm (processId token : String) (graph : Graph) :
    (documentIds processId token graph).Perm (processId :: (graph.nodes.map Node.elementId ++
      (reservedIds token graph ++ drawnIds token graph))) := by
  rw [List.perm_iff_count]
  intro id
  simp only [documentIds, reservedIds, drawnIds, List.cons_append, List.count_cons,
    List.count_append]
  omega

theorem ends_append (front back : String) (ends : EndsHex back) : EndsHex (front ++ back) := by
  obtain ⟨inner, last, shape, hex⟩ := ends
  refine ⟨front.toList ++ inner, last, ?_, hex⟩
  rw [String.toList_append, shape, List.append_assoc]

theorem ends_chars (text : String) (hex : ∀ c ∈ text.toList, isHex c) (nonempty : text.toList ≠ []) :
    EndsHex text :=
  ⟨text.toList.dropLast, text.toList.getLast nonempty,
    (List.dropLast_append_getLast nonempty).symm, hex _ (List.getLast_mem nonempty)⟩

theorem ends_flow (token : String) (index : Nat) : EndsHex (Document.flowId token index) := by
  apply ends_append
  apply ends_chars
  · intro c member
    rw [Nat.toString_eq_ofList_toDigits, String.toList_ofList] at member
    exact Identifier.digits_hex _ c member
  · rw [Nat.toString_eq_ofList_toDigits, String.toList_ofList]
    exact Nat.toDigits_ne_nil

theorem ends_not_drawn (id other : String) (ends : EndsHex id) : id ≠ drawnId other := by
  rintro rfl
  obtain ⟨front, last, shape, hex⟩ := ends
  have tail : (drawnId other).toList = (other.toList ++ ['_', 'd']) ++ ['i'] := by
    rw [drawnId, String.toList_append, List.append_assoc]
    rfl
  rw [tail] at shape
  obtain ⟨_, same⟩ := List.append_inj' shape rfl
  rw [← List.singleton_inj.mp same] at hex
  exact absurd hex (by decide)

theorem drawn_injective (first second : String) (same : drawnId first = drawnId second) :
    first = second := by
  have chars := congrArg String.toList same
  rw [drawnId, drawnId, String.toList_append, String.toList_append] at chars
  exact String.toList_injective (List.append_cancel_right chars)

theorem fronts_apart (first second token other : String) (index : Nat) (front back : Char)
    (one : first.toList[index]? = some front) (two : second.toList[index]? = some back)
    (apart : front ≠ back) : first ++ token ≠ second ++ other := by
  intro same
  have chars := congrArg (fun text => text.toList[index]?) same
  have low := (List.getElem?_eq_some_iff.mp one).1
  have high := (List.getElem?_eq_some_iff.mp two).1
  simp only [String.toList_append, List.getElem?_append_left low, List.getElem?_append_left high,
    one, two] at chars
  exact apart (Option.some.inj chars)

theorem flow_front (front token other : String) (c : Char) (first : front.toList[0]? = some c)
    (apart : c ≠ 'F') (graph : Graph) : front ++ token ∉ flowIds other graph := by
  intro member
  obtain ⟨index, _, same⟩ := List.mem_map.mp member
  rw [Document.flowId, String.append_assoc, String.append_assoc] at same
  exact fronts_apart front "Flow_" token _ 0 c 'F' first rfl apart same.symm

theorem reserved_distinct (token : String) (graph : Graph) : (reservedIds token graph).Nodup := by
  have definitions := flow_front "Definitions_" token token 'D' rfl (by decide) graph
  have diagram := flow_front "BPMNDiagram_" token token 'B' rfl (by decide) graph
  have plane := flow_front "BPMNPlane_" token token 'B' rfl (by decide) graph
  have first := fronts_apart "Definitions_" "BPMNDiagram_" token token 0 'D' 'B' rfl rfl (by decide)
  have second := fronts_apart "Definitions_" "BPMNPlane_" token token 0 'D' 'B' rfl rfl (by decide)
  have third := fronts_apart "BPMNDiagram_" "BPMNPlane_" token token 4 'D' 'P' rfl rfl (by decide)
  simp only [reservedIds, List.nodup_cons, List.mem_cons, not_or]
  exact ⟨⟨first, second, definitions⟩, ⟨third, diagram⟩, plane, flows_distinct token graph⟩

variable (processId token : String) (graph : Graph)

theorem reserved_ends (hex : ∀ c ∈ token.toList, isHex c) (nonempty : token.toList ≠ []) :
    ∀ id ∈ reservedIds token graph, EndsHex id := by
  have ends := ends_chars token hex nonempty
  intro id member
  simp only [reservedIds, List.mem_cons] at member
  rcases member with rfl | rfl | rfl | flow
  · exact ends_append _ _ ends
  · exact ends_append _ _ ends
  · exact ends_append _ _ ends
  · obtain ⟨index, _, rfl⟩ := List.mem_map.mp flow
    exact ends_flow token index

theorem ids_distinct_iff (built : graph.Built) (hex : ∀ c ∈ token.toList, isHex c)
    (nonempty : token.toList ≠ []) :
    (documentIds processId token graph).Nodup ↔ Clear processId token graph := by
  rw [(ids_perm processId token graph).nodup_iff, List.nodup_cons]
  constructor
  · rintro ⟨process, others⟩
    have apart := (List.nodup_append.mp others).2.2
    exact ⟨fun id element reserved =>
      apart id element id (List.mem_append_left _ reserved) rfl, process⟩
  · intro clear
    refine ⟨clear.process, ?_⟩
    have reserved := reserved_ends token graph hex nonempty
    have elements : ∀ id ∈ graph.nodes.map Node.elementId, EndsHex id := by
      intro id member
      obtain ⟨node, inside, rfl⟩ := List.mem_map.mp member
      exact (built.issued node inside).ending
    -- Nothing but drawn ids ends in the letter that the suffix of drawn ids ends in.
    have undrawn : ∀ id, EndsHex id → id ∉ drawnIds token graph := by
      intro id ends member
      obtain ⟨other, _, same⟩ := List.mem_map.mp member
      exact ends_not_drawn id other ends same.symm
    have drawn : (drawnIds token graph).Nodup := by
      refine List.Nodup.map (fun first second => drawn_injective first second) ?_
      refine List.nodup_append.mpr ⟨built.sound.elementsDistinct, flows_distinct token graph, ?_⟩
      rintro id element _ flow rfl
      exact clear.elements id element (by simp [reservedIds, flow])
    refine List.nodup_append.mpr ⟨built.sound.elementsDistinct, ?_, ?_⟩
    · refine List.nodup_append.mpr ⟨reserved_distinct token graph, drawn, ?_⟩
      rintro id member _ inside rfl
      exact undrawn id (reserved id member) inside
    · rintro id element _ member rfl
      rcases List.mem_append.mp member with fixed | inside
      · exact clear.elements id element fixed
      · exact undrawn id (elements id element) inside

end ProcessDiagram.Validation
