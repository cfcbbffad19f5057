import ProcessDiagram.Proofs.Graph.Construction

set_option autoImplicit false

namespace ProcessDiagram.Graph

open Reach (Leads Linked)

def Finishes (graph : Graph) (id : String) : Prop :=
  ∃ final ∈ graph.ends, Leads graph.links id final.id

def Circles (graph : Graph) (id : String) : Prop :=
  Relation.TransGen (Linked graph.links) id id

variable (graph : Graph)

theorem end_finishes (node : Node) (member : node ∈ graph.nodes) (final : node.kind = .endEvent) :
    graph.Finishes node.id :=
  ⟨node, List.mem_filter.mpr ⟨member, decide_eq_true final⟩, .refl⟩

theorem finishes_before (first second : String) (link : Linked graph.links first second)
    (finishes : graph.Finishes second) : graph.Finishes first := by
  obtain ⟨final, member, leads⟩ := finishes
  exact ⟨final, member, .head link leads⟩

theorem unfinished_next (sound : graph.Sound) (id : String) (known : id ∈ graph.ids)
    (unfinished : ¬ graph.Finishes id) :
    ∃ next ∈ graph.ids, Linked graph.links id next ∧ ¬ graph.Finishes next := by
  obtain ⟨node, member, rfl⟩ := List.mem_map.mp known
  have leaves : graph.outgoing node.id ≠ [] := fun none =>
    unfinished (end_finishes graph node member (sound.left node member none))
  obtain ⟨edge, leaving⟩ := List.exists_mem_of_ne_nil _ leaves
  obtain ⟨listed, source⟩ := List.mem_filter.mp leaving
  have link : Linked graph.links node.id edge.target :=
    (linked_iff graph _ _).mpr ⟨edge, listed, of_decide_eq_true source, rfl⟩
  exact ⟨edge.target, (sound.connected edge listed).2, link, fun finishes =>
    unfinished (finishes_before graph _ _ link finishes)⟩

theorem unfinished_trapped (sound : graph.Sound) (id : String) (known : id ∈ graph.ids)
    (unfinished : ¬ graph.Finishes id) :
    ∃ trap ∈ graph.ids, Leads graph.links id trap ∧ graph.Circles trap ∧
      ¬ graph.Finishes trap := by
  classical
  by_contra free
  -- Without a cycle the nodes that are reached and never finish would have a last one.
  obtain ⟨last, member, stuck⟩ := Reach.some_sink (Linked graph.links)
    (graph.ids.filter fun other => Leads graph.links id other ∧ ¬ graph.Finishes other)
    (by
      intro other member circle
      obtain ⟨inside, within⟩ := List.mem_filter.mp member
      obtain ⟨leads, never⟩ := of_decide_eq_true within
      exact free ⟨other, inside, leads, circle, never⟩)
    (List.ne_nil_of_mem (List.mem_filter.mpr
      ⟨known, decide_eq_true ⟨Relation.ReflTransGen.refl, unfinished⟩⟩))
  obtain ⟨inside, within⟩ := List.mem_filter.mp member
  obtain ⟨leads, never⟩ := of_decide_eq_true within
  obtain ⟨next, further, link, open_end⟩ := unfinished_next graph sound last inside never
  exact stuck next (List.mem_filter.mpr
    ⟨further, decide_eq_true ⟨leads.tail link, open_end⟩⟩) link

theorem finishes_without_circles (sound : graph.Sound) (free : ∀ id, ¬ graph.Circles id)
    (id : String) (known : id ∈ graph.ids) : graph.Finishes id := by
  by_contra unfinished
  obtain ⟨trap, _, _, circle, _⟩ := unfinished_trapped graph sound id known unfinished
  exact free trap circle

variable {Coordinate : Type}

/-- From every node of an accepted graph an end can be reached, unless a cycle has no way out of it. -/
theorem accepted_finishes_unless_trapped (archetypes : List (Archetype Coordinate))
    (honorGateways : Bool) (description : Description) (token : String)
    (found : ofDescription archetypes honorGateways description token = .ok graph) :
    (∀ node ∈ graph.nodes, ¬ graph.Finishes node.id →
      ∃ trap ∈ graph.nodes, Leads graph.links node.id trap.id ∧ graph.Circles trap.id ∧
        ¬ graph.Finishes trap.id) ∧
      ((graph.ends ≠ [] ∧ ∀ node ∈ graph.nodes, graph.Finishes node.id) ↔
        ∀ node ∈ graph.nodes, graph.Circles node.id → graph.Finishes node.id) := by
  obtain ⟨sound, _⟩ := accepted_drafted archetypes honorGateways description token graph found
  have trapped : ∀ node ∈ graph.nodes, ¬ graph.Finishes node.id →
      ∃ trap ∈ graph.nodes, Leads graph.links node.id trap.id ∧ graph.Circles trap.id ∧
        ¬ graph.Finishes trap.id := by
    intro node member unfinished
    obtain ⟨id, known, leads, circle, never⟩ := unfinished_trapped graph sound node.id
      (List.mem_map_of_mem member) unfinished
    obtain ⟨trap, inside, rfl⟩ := List.mem_map.mp known
    exact ⟨trap, inside, leads, circle, never⟩
  refine ⟨trapped, fun ⟨_, finishes⟩ node member _ => finishes node member, fun circles => ?_⟩
  have finishes : ∀ node ∈ graph.nodes, graph.Finishes node.id := by
    intro node member
    by_contra unfinished
    obtain ⟨trap, inside, _, circle, never⟩ := trapped node member unfinished
    exact never (circles trap inside circle)
  refine ⟨?_, finishes⟩
  obtain ⟨start, only⟩ := sound.start
  have first : start ∈ graph.starts := only ▸ List.mem_cons_self
  obtain ⟨final, member, _⟩ := finishes start (List.mem_of_mem_filter first)
  exact List.ne_nil_of_mem member

/-- A text that is written and corrected for ever. -/
def endlessArchetype : Archetype Unit where
  name := "correction"
  accepts _ := true
  recipe := [
    .ok (.node .startEvent "Start" "StartEvent" none "" ""), .ok (.task "Write" "write" none),
    .ok (.task "Correct" "correct" none), .ok (.chain ["node_1", "node_2", "node_3", "node_2"])]

theorem endless_archetype_trapped :
    ∃ graph, ofDescription [endlessArchetype] false {} "00000000" = .ok graph ∧ graph.ends = [] ∧
      ∃ trap ∈ graph.nodes, Leads graph.links "node_1" trap.id ∧ graph.Circles trap.id ∧
        ¬ graph.Finishes trap.id := by
  have built : (ofDescription [endlessArchetype] false {} "00000000").toOption.map
      (fun graph => (graph.ends, graph.ids)) = some ([], ["node_1", "node_2", "node_3"]) := by
    decide +kernel
  obtain ⟨graph, found⟩ : ∃ graph,
      ofDescription [endlessArchetype] false {} "00000000" = .ok graph :=
    Each.ok_exists _ (by decide +kernel)
  rw [found] at built
  obtain ⟨ends, ids⟩ := Prod.mk.inj (Option.some.inj built)
  have listed : "node_1" ∈ graph.ids := ids ▸ List.mem_cons_self
  obtain ⟨node, member, first⟩ := List.mem_map.mp listed
  have unfinished : ¬ graph.Finishes node.id := by
    rintro ⟨final, listed, _⟩
    rw [ends] at listed
    cases listed
  have trapped := (accepted_finishes_unless_trapped graph [endlessArchetype] false {} "00000000"
    found).1 node member unfinished
  rw [first] at trapped
  exact ⟨graph, found, ends, trapped⟩

end ProcessDiagram.Graph
