import ProcessDiagram.Proofs.Graph.Orderly
import ProcessDiagram.Proofs.Graph.Trail
import ProcessDiagram.Proofs.Graph.Trap

set_option autoImplicit false

namespace ProcessDiagram.Graph

open Reach (Leads Linked)

variable (graph : Graph)

theorem trail_end (sound : graph.Sound) (orderly : graph.Orderly) (visited : List String)
    (id : String) (path : List Node) (trail : Trail graph visited id path) :
    ∃ front final, path = front ++ [final] ∧ final.kind = .endEvent ∧
      ∀ node ∈ front, node.kind ≠ .endEvent := by
  induction trail with
  | stop visited id node found _ final =>
      obtain ⟨member, rfl⟩ := found_member graph id node found
      exact ⟨[], node, rfl, sound.left node member final, by simp⟩
  | go visited id node edge path found _ leaves _ ih =>
      obtain ⟨member, rfl⟩ := found_member graph id node found
      obtain ⟨listed, source⟩ := List.mem_filter.mp leaves
      obtain ⟨front, final, rfl, ended, others⟩ := ih
      have suits := orderly.suited edge listed node member (of_decide_eq_true source).symm
      exact ⟨node :: front, final, rfl, ended, List.forall_mem_cons.mpr ⟨suits.1, others⟩⟩

theorem orderly_free (orderly : graph.Orderly) (id : String) : ¬ graph.Circles id := fun circle =>
  Nat.lt_irrefl _ (rank_behind graph graph.ids.idxOf orderly.forward id id circle)

def Before (visited : List String) (id : String) : Prop :=
  ∀ other ∈ visited, graph.ids.idxOf other < graph.ids.idxOf id

theorem before_next (orderly : graph.Orderly) (edge : Edge) (member : edge ∈ graph.edges)
    (visited : List String) (before : graph.Before visited edge.source) :
    graph.Before (edge.source :: visited) edge.target := by
  have further := orderly.forward edge member
  exact List.forall_mem_cons.mpr ⟨further, fun other old => (before other old).trans further⟩

theorem trail_longer (sound : graph.Sound) (edge : Edge) (member : edge ∈ graph.edges)
    (visited : List String) (before : graph.Before visited edge.source) (path : List Node)
    (further : Trail graph (edge.source :: visited) edge.target path) :
    ∃ node, Trail graph visited edge.source (node :: path) := by
  obtain ⟨node, found⟩ := node_found graph edge.source (sound.connected edge member).1
  exact ⟨node, .go visited edge.source node edge path found
    (fun old => Nat.lt_irrefl _ (before _ old))
    (List.mem_filter.mpr ⟨member, decide_eq_true rfl⟩) further⟩

theorem trail_onward (sound : graph.Sound) (orderly : graph.Orderly) (id : String)
    (finishes : graph.Finishes id) (visited : List String) (before : graph.Before visited id) :
    ∃ path, Trail graph visited id path := by
  obtain ⟨final, member, leads⟩ := finishes
  induction leads using Relation.ReflTransGen.head_induction_on generalizing visited with
  | refl =>
      obtain ⟨inside, kind⟩ := List.mem_filter.mp member
      obtain ⟨node, found⟩ := node_found graph final.id (List.mem_map_of_mem inside)
      refine ⟨[node], .stop visited final.id node found (fun old => Nat.lt_irrefl _ (before _ old)) ?_⟩
      rw [outgoing, List.filter_eq_nil_iff]
      intro edge listed source
      exact (orderly.suited edge listed final inside (of_decide_eq_true source).symm).1
        (of_decide_eq_true kind)
  | head link _ ih =>
      obtain ⟨edge, listed, rfl, rfl⟩ := (linked_iff graph _ _).mp link
      obtain ⟨path, further⟩ := ih _ (before_next graph orderly edge listed visited before)
      obtain ⟨node, longer⟩ := trail_longer graph sound edge listed visited before path further
      exact ⟨node :: path, longer⟩

theorem trail_through (sound : graph.Sound) (orderly : graph.Orderly) (first : String) (node : Node)
    (inside : node ∈ graph.nodes) (leads : Leads graph.links first node.id) (visited : List String)
    (before : graph.Before visited first) :
    ∃ path, Trail graph visited first path ∧ node ∈ path := by
  induction leads using Relation.ReflTransGen.head_induction_on generalizing visited with
  | refl =>
      have finishes := finishes_without_circles graph sound (orderly_free graph orderly) node.id
        (List.mem_map_of_mem inside)
      obtain ⟨path, trail⟩ := trail_onward graph sound orderly node.id finishes visited before
      have head := trail_head graph visited node.id path trail
      rw [node_of_id graph sound.distinct node inside] at head
      exact ⟨path, trail, List.mem_of_mem_head? head⟩
  | head link _ ih =>
      obtain ⟨edge, listed, rfl, rfl⟩ := (linked_iff graph _ _).mp link
      obtain ⟨path, further, passed⟩ :=
        ih _ (before_next graph orderly edge listed visited before)
      obtain ⟨other, longer⟩ := trail_longer graph sound edge listed visited before path further
      exact ⟨other :: path, longer, List.mem_cons_of_mem other passed⟩

/-- Each path of a described process leads from its one start to an end, every node is on a path, and only
gateways have conditions on their ways out. -/
theorem described_paths_pass {Coordinate : Type} (coordinate : Int → Coordinate)
    (honorGateways : Bool) (description : Description) (token : String) :
    ∃ graph, ofDescription (Archetype.catalog coordinate) honorGateways description token =
        .ok graph ∧
      ∃ start, graph.starts = [start] ∧
        (∀ path ∈ graph.paths, path.head? = some start ∧
          ∃ front final, path = front ++ [final] ∧ final.kind = .endEvent ∧
            ∀ node ∈ front, node.kind ≠ .endEvent) ∧
        (∀ node ∈ graph.nodes, ∃ path ∈ graph.paths, node ∈ path) ∧
        ∀ edge ∈ graph.edges, edge.condition ≠ none →
          ∃ node ∈ graph.nodes, node.id = edge.source ∧
            (node.kind = .exclusiveGateway ∨ node.kind = .inclusiveGateway) := by
  obtain ⟨graph, found, sound, orderly⟩ :=
    description_orderly coordinate honorGateways description token
  obtain ⟨start, only⟩ := sound.start
  have first : start ∈ graph.starts := only ▸ List.mem_cons_self
  refine ⟨graph, found, start, only, ?_, ?_, ?_⟩
  · intro path member
    obtain ⟨origin, listed, trail⟩ := (mem_paths graph path).mp member
    rw [only, List.mem_singleton] at listed
    subst listed
    have head := trail_head graph [] origin.id path trail
    rw [node_of_id graph sound.distinct origin (List.mem_of_mem_filter first)] at head
    exact ⟨head, trail_end graph sound orderly [] origin.id path trail⟩
  · intro node inside
    have leads := sound.reached start first node.id (List.mem_map_of_mem inside)
    obtain ⟨path, trail, passed⟩ := trail_through graph sound orderly start.id node inside leads []
      (by intro other none; cases none)
    exact ⟨path, (mem_paths graph path).mpr ⟨start, first, trail⟩, passed⟩
  · intro edge member conditioned
    obtain ⟨node, inside, same⟩ := List.mem_map.mp (sound.connected edge member).1
    exact ⟨node, inside, same, (orderly.suited edge member node inside same).2.1 conditioned⟩

end ProcessDiagram.Graph
