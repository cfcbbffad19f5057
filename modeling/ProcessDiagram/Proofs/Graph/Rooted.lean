import ProcessDiagram.Proofs.Graph.Sound

set_option autoImplicit false

namespace ProcessDiagram.Graph

open Reach (Leads Linked)

-- What holds of a graph under way; which nodes still lead nowhere is left open.
structure Rooted (graph : Graph) (root : String) : Prop where
  distinct : graph.ids.Nodup
  connected : ∀ edge ∈ graph.edges, edge.source ∈ graph.ids ∧ edge.target ∈ graph.ids
  starts : graph.starts.map Node.id = [root]
  entered : ∀ node ∈ graph.nodes, graph.incoming node.id = [] ↔ node.kind = .startEvent
  reached : ∀ id ∈ graph.ids, Leads graph.links root id

def attach (graph : Graph) (node : Node) (edge : Edge) : Graph :=
  { graph with nodes := graph.nodes ++ [node], edges := graph.edges ++ [edge] }

variable (graph : Graph) (root : String) (node : Node) (edge : Edge)

theorem ids_attach : (graph.attach node edge).ids = graph.ids ++ [node.id] := by
  simp [ids, attach]

theorem incoming_attach (id : String) :
    (graph.attach node edge).incoming id =
      graph.incoming id ++ if edge.target = id then [edge] else [] := by
  rw [incoming, attach, List.filter_append]
  by_cases same : edge.target = id
  · simp [incoming, same]
  · simp [incoming, same]

theorem outgoing_attach (id : String) :
    (graph.attach node edge).outgoing id =
      graph.outgoing id ++ if edge.source = id then [edge] else [] := by
  rw [outgoing, attach, List.filter_append]
  by_cases same : edge.source = id
  · simp [outgoing, same]
  · simp [outgoing, same]

theorem labels_attach (id : String) :
    (graph.attach node edge).branchLabels id =
      graph.branchLabels id ++ if edge.source = id then edge.label?.toList else [] := by
  rw [branchLabels, outgoing_attach, List.filterMap_append, branchLabels]
  congr 1
  by_cases same : edge.source = id
  · rw [if_pos same, if_pos same]
    cases labelled : edge.label? with
    | none => simp [labelled]
    | some label => simp [labelled]
  · rw [if_neg same, if_neg same]
    rfl

theorem links_attach : (graph.attach node edge).links = graph.links ++ [(edge.source, edge.target)] := by
  simp [links, attach]

theorem no_outgoing (connected : ∀ edge ∈ graph.edges, edge.source ∈ graph.ids) (id : String)
    (fresh : id ∉ graph.ids) : graph.outgoing id = [] := by
  rw [outgoing, List.filter_eq_nil_iff]
  intro edge member same
  exact fresh (of_decide_eq_true same ▸ connected edge member)

theorem attach_rooted (rooted : Rooted graph root) (fresh : node.id ∉ graph.ids)
    (source : edge.source ∈ graph.ids) (target : edge.target = node.id)
    (later : node.kind ≠ .startEvent) : Rooted (graph.attach node edge) root := by
  have wider : Leads graph.links ≤ Leads (graph.attach node edge).links := by
    refine Relation.ReflTransGen.mono fun source target link => ?_
    rw [Linked, links_attach]
    exact List.mem_append_left _ link
  constructor
  · rw [ids_attach]
    exact List.nodup_append.mpr ⟨rooted.distinct, List.pairwise_singleton _ _, by
      rintro id member _ last rfl
      exact fresh (List.mem_singleton.mp last ▸ member)⟩
  · intro other member
    rw [ids_attach]
    rcases List.mem_append.mp member with old | last
    · obtain ⟨known, aimed⟩ := rooted.connected other old
      exact ⟨List.mem_append_left _ known, List.mem_append_left _ aimed⟩
    · rw [List.mem_singleton.mp last, target]
      exact ⟨List.mem_append_left _ source, List.mem_append_right _ List.mem_cons_self⟩
  · have starts : (graph.attach node edge).starts = graph.starts := by
      simp [Graph.starts, ofKind, attach, later]
    rw [starts]
    exact rooted.starts
  · intro other member
    rw [incoming_attach, target]
    rcases List.mem_append.mp member with old | last
    · have apart : node.id ≠ other.id := fun same =>
        fresh (same ▸ List.mem_map_of_mem old)
      rw [if_neg apart, List.append_nil]
      exact rooted.entered other old
    · rw [List.mem_singleton.mp last, if_pos rfl]
      simp [later]
  · intro id member
    rw [ids_attach] at member
    rcases List.mem_append.mp member with old | last
    · exact wider _ _ (rooted.reached id old)
    · rw [List.mem_singleton.mp last, ← target]
      refine (wider _ _ (rooted.reached _ source)).tail ?_
      rw [Linked, links_attach]
      exact List.mem_append_right _ List.mem_cons_self

end ProcessDiagram.Graph
