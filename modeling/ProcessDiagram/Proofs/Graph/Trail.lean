import ProcessDiagram.Proofs.Graph.Sound

set_option autoImplicit false

namespace ProcessDiagram.Graph

-- A way on from an id that keeps away from the ids that were visited.
inductive Trail (graph : Graph) : List String → String → List Node → Prop
  | stop (visited : List String) (id : String) (node : Node) (found : graph.node? id = some node)
      (fresh : id ∉ visited) (final : graph.outgoing id = []) : Trail graph visited id [node]
  | go (visited : List String) (id : String) (node : Node) (edge : Edge) (path : List Node)
      (found : graph.node? id = some node) (fresh : id ∉ visited) (leaves : edge ∈ graph.outgoing id)
      (further : Trail graph (id :: visited) edge.target path) :
      Trail graph visited id (node :: path)

variable (graph : Graph)

theorem path_trail (fuel : Nat) (visited : List String) (id : String) (path : List Node)
    (member : path ∈ graph.pathsFrom fuel visited id) : Trail graph visited id path := by
  induction fuel generalizing visited id path with
  | zero => cases member
  | succ fuel ih =>
      rw [pathsFrom] at member
      split at member
      · cases member
      · rename_i node found
        split at member
        · cases member
        · rename_i fresh
          split at member
          · rename_i final
            rw [List.mem_singleton.mp member]
            exact .stop visited id node found fresh final
          · obtain ⟨edge, leaves, onward⟩ := List.mem_flatMap.mp member
            obtain ⟨rest, further, rfl⟩ := List.mem_map.mp onward
            exact .go visited id node edge rest found fresh leaves (ih _ _ _ further)

theorem trail_path (visited : List String) (id : String) (path : List Node)
    (trail : Trail graph visited id path) (fuel : Nat) (enough : path.length ≤ fuel) :
    path ∈ graph.pathsFrom fuel visited id := by
  induction trail generalizing fuel with
  | stop visited id node found fresh final =>
      obtain ⟨fuel, rfl⟩ := Nat.exists_eq_add_of_lt (Nat.lt_of_lt_of_le Nat.zero_lt_one enough)
      rw [Nat.zero_add, pathsFrom, found]
      simp only [if_neg fresh, final]
      exact List.mem_singleton_self _
  | go visited id node edge path found fresh leaves _ ih =>
      obtain ⟨fuel, rfl⟩ := Nat.exists_eq_add_of_lt (Nat.lt_of_lt_of_le (Nat.succ_pos _) enough)
      rw [Nat.zero_add] at enough ⊢
      rw [pathsFrom, found]
      simp only [if_neg fresh]
      split
      · rename_i none
        rw [none] at leaves
        cases leaves
      · exact List.mem_flatMap.mpr ⟨edge, leaves, List.mem_map_of_mem
          (ih fuel (Nat.le_of_succ_le_succ enough))⟩

theorem trail_head (visited : List String) (id : String) (path : List Node)
    (trail : Trail graph visited id path) : path.head? = graph.node? id := by
  cases trail with
  | stop _ _ node found fresh final => exact found.symm
  | go _ _ node edge path found fresh leaves further => exact found.symm

theorem trail_nodes (visited : List String) (id : String) (path : List Node)
    (trail : Trail graph visited id path) :
    (∀ node ∈ path, node ∈ graph.nodes) ∧ (path.map Node.id).Nodup ∧
      ∀ node ∈ path, node.id ∉ visited := by
  induction trail with
  | stop visited id node found fresh _ =>
      obtain ⟨member, rfl⟩ := found_member graph id node found
      simpa using ⟨member, fresh⟩
  | go visited id node edge path found fresh _ _ ih =>
      obtain ⟨member, rfl⟩ := found_member graph id node found
      obtain ⟨inside, distinct, apart⟩ := ih
      refine ⟨List.forall_mem_cons.mpr ⟨member, inside⟩, ?_, List.forall_mem_cons.mpr ⟨fresh, ?_⟩⟩
      · rw [List.map_cons, List.nodup_cons]
        refine ⟨fun again => ?_, distinct⟩
        obtain ⟨other, later, same⟩ := List.mem_map.mp again
        exact apart other later (same ▸ List.mem_cons_self)
      · exact fun other later known => apart other later (List.mem_cons_of_mem _ known)

theorem trail_length (visited : List String) (id : String) (path : List Node)
    (trail : Trail graph visited id path) : path.length ≤ graph.nodes.length := by
  obtain ⟨inside, distinct, _⟩ := trail_nodes graph visited id path trail
  exact (List.subperm_of_subset (List.Nodup.of_map _ distinct) inside).length_le

theorem mem_paths (path : List Node) :
    path ∈ graph.paths ↔ ∃ start ∈ graph.starts, Trail graph [] start.id path := by
  rw [paths, List.mem_flatMap]
  constructor
  · rintro ⟨start, member, found⟩
    exact ⟨start, member, path_trail graph _ _ _ _ found⟩
  · rintro ⟨start, member, trail⟩
    exact ⟨start, member, trail_path graph _ _ _ trail _ (trail_length graph _ _ _ trail)⟩

end ProcessDiagram.Graph
