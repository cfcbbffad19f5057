import Mathlib.Algebra.GroupWithZero.Nat
import ProcessDiagram.Graph.Path
import ProcessDiagram.Proofs.Graph.Sound

set_option autoImplicit false

namespace ProcessDiagram

-- A node on the line, with the ends beside it and the condition of the edge to each, and the
-- condition of the edge that goes on.
structure Turn where
  node : Node
  exits : List (Node × Option String) := []
  onward : Option String := none

namespace Turn

def nodes (turn : Turn) : List Node :=
  turn.node :: turn.exits.map Prod.fst

def exitEdges (turn : Turn) : List Edge :=
  turn.exits.map fun exit => ⟨turn.node.id, exit.1.id, exit.2⟩

-- Where a line begins: at its first turn, or at the target behind it when there is none.
def entry (target : String) : List Turn → String
  | [] => target
  | turn :: _ => turn.node.id

def edges (target : String) : List Turn → List Edge
  | [] => []
  | turn :: rest =>
      turn.exitEdges ++ ⟨turn.node.id, entry target rest, turn.onward⟩ :: edges target rest

def sidePaths : List Turn → List (List Node)
  | [] => []
  | turn :: rest =>
      turn.exits.map (fun exit => [turn.node, exit.1]) ++ (sidePaths rest).map (turn.node :: ·)

theorem edges_snoc (target : String) (turns : List Turn) (last : Turn) :
    edges target (turns ++ [last]) =
      edges last.node.id turns ++ (last.exitEdges ++ [⟨last.node.id, target, last.onward⟩]) := by
  induction turns with
  | nil => rfl
  | cons turn rest ih =>
      have same : entry target (rest ++ [last]) = entry last.node.id rest := by
        cases rest <;> rfl
      rw [List.cons_append, edges, edges, ih, same]
      simp

theorem targets_perm (target : String) (turns : List Turn) :
    (entry target turns :: (edges target turns).map Edge.target).Perm
      ((turns.flatMap nodes).map Node.id ++ [target]) := by
  induction turns with
  | nil => exact .refl _
  | cons turn rest ih =>
      have aside : turn.exitEdges.map Edge.target = (turn.exits.map Prod.fst).map Node.id := by
        rw [exitEdges, List.map_map, List.map_map]
        rfl
      rw [entry, edges, List.map_append, List.map_cons, aside, List.flatMap_cons, nodes,
        List.map_append, List.map_cons, List.append_assoc, List.cons_append, List.perm_cons]
      exact ih.append_left _

theorem edges_length (target : String) (turns : List Turn) :
    (edges target turns).length = (turns.flatMap nodes).length := by
  induction turns with
  | nil => rfl
  | cons turn rest ih =>
      rw [edges, List.length_append, List.length_cons, ih, List.flatMap_cons, List.length_append,
        exitEdges, nodes, List.length_map, List.length_cons, List.length_map]
      omega

theorem nodes_length (turns : List Turn) :
    (turns.flatMap nodes).length = turns.length + (turns.map fun turn => turn.exits.length).sum := by
  induction turns with
  | nil => rfl
  | cons turn rest ih =>
      rw [List.flatMap_cons, List.length_append, ih, nodes, List.length_cons, List.length_map,
        List.length_cons, List.map_cons, List.sum_cons]
      omega

theorem side_paths_length (turns : List Turn) :
    (sidePaths turns).length = (turns.map fun turn => turn.exits.length).sum := by
  induction turns with
  | nil => rfl
  | cons turn rest ih =>
      rw [sidePaths, List.length_append, List.length_map, List.length_map, ih, List.map_cons,
        List.sum_cons]

theorem mem_side_paths (turns : List Turn) (path : List Node) :
    path ∈ sidePaths turns ↔ ∃ before turn after exit, turns = before ++ turn :: after ∧
      exit ∈ turn.exits ∧ path = before.map node ++ [turn.node, exit.1] := by
  induction turns generalizing path with
  | nil => simp [sidePaths]
  | cons first rest ih =>
      rw [sidePaths, List.mem_append, List.mem_map, List.mem_map]
      constructor
      · rintro (⟨exit, member, rfl⟩ | ⟨later, member, rfl⟩)
        · exact ⟨[], first, rest, exit, rfl, member, rfl⟩
        · obtain ⟨before, turn, after, exit, rfl, inside, rfl⟩ := (ih later).mp member
          exact ⟨first :: before, turn, after, exit, rfl, inside, rfl⟩
      · rintro ⟨before, turn, after, exit, split, member, rfl⟩
        cases before with
        | nil =>
            cases split
            exact .inl ⟨exit, member, rfl⟩
        | cons other before =>
            cases split
            exact .inr ⟨_, (ih _).mpr ⟨before, turn, after, exit, rfl, member, rfl⟩, rfl⟩

theorem edge_source (target : String) (turns : List Turn) :
    ∀ edge ∈ edges target turns, edge.source ∈ turns.map fun turn => turn.node.id := by
  induction turns with
  | nil => simp [edges]
  | cons turn rest ih =>
      intro edge member
      rw [edges, List.mem_append, List.mem_cons] at member
      rcases member with exit | onward | later
      · obtain ⟨_, _, rfl⟩ := List.mem_map.mp exit
        exact List.mem_cons_self
      · rw [onward]
        exact List.mem_cons_self
      · exact List.mem_cons_of_mem _ (ih edge later)

theorem exits_leaving (turn : Turn) :
    turn.exitEdges.filter (fun edge => edge.source = turn.node.id) = turn.exitEdges := by
  rw [List.filter_eq_self]
  intro edge member
  obtain ⟨_, _, rfl⟩ := List.mem_map.mp member
  exact decide_eq_true rfl

theorem edges_elsewhere (target id : String) (turns : List Turn)
    (apart : id ∉ turns.map fun turn => turn.node.id) :
    (edges target turns).filter (fun edge => edge.source = id) = [] := by
  rw [List.filter_eq_nil_iff]
  intro edge member same
  exact apart (of_decide_eq_true same ▸ edge_source target turns edge member)

theorem edges_leaving (target : String) (before : List Turn) (turn : Turn) (after : List Turn)
    (distinct : ((before ++ turn :: after).map fun turn => turn.node.id).Nodup) :
    (edges target (before ++ turn :: after)).filter (fun edge => edge.source = turn.node.id) =
      turn.exitEdges ++ [⟨turn.node.id, entry target after, turn.onward⟩] := by
  induction before with
  | nil =>
      have behind := edges_elsewhere target turn.node.id after (List.nodup_cons.mp distinct).1
      rw [List.nil_append, edges, List.filter_append, exits_leaving, List.filter_cons_of_pos, behind]
      simp
  | cons first rest ih =>
      rw [List.cons_append, List.map_cons, List.nodup_cons] at distinct
      obtain ⟨fresh, others⟩ := distinct
      have apart : ¬ first.node.id = turn.node.id := by
        intro same
        apply fresh
        rw [same, List.map_append, List.map_cons]
        exact List.mem_append_right _ List.mem_cons_self
      have exits : first.exitEdges.filter (fun edge => edge.source = turn.node.id) = [] := by
        rw [List.filter_eq_nil_iff]
        intro edge member same
        obtain ⟨_, _, rfl⟩ := List.mem_map.mp member
        exact apart (of_decide_eq_true same)
      rw [List.cons_append, edges, List.filter_append, exits, List.filter_cons_of_neg, ih others]
      · rfl
      · simpa using apart

theorem nodes_apart (turns : List Turn) :
    (turns.flatMap nodes).Perm
      (turns.map node ++ turns.flatMap fun turn => turn.exits.map Prod.fst) := by
  induction turns with
  | nil => exact .nil
  | cons turn rest ih =>
      rw [List.flatMap_cons, List.flatMap_cons, List.map_cons, nodes, List.cons_append,
        List.cons_append, List.perm_cons]
      exact (ih.append_left _).trans (List.perm_append_comm_assoc _ _ _)

end Turn

namespace Graph

open Turn (entry sidePaths)

structure Spine (graph : Graph) (turns : List Turn) (final : Node) : Prop where
  nodes : graph.nodes = turns.flatMap Turn.nodes ++ [final]
  edges : graph.edges = Turn.edges final.id turns
  distinct : graph.ids.Nodup

namespace Spine

variable {graph : Graph} {turns : List Turn} {final : Node} (spine : graph.Spine turns final)

include spine

theorem ids_apart :
    (turns.map fun turn => turn.node.id).Nodup ∧
      (∀ turn ∈ turns, ∀ exit ∈ turn.exits,
        exit.1.id ∉ turns.map fun turn => turn.node.id) ∧
      final.id ∉ turns.map fun turn => turn.node.id := by
  have distinct := spine.distinct
  rw [Graph.ids, spine.nodes, List.map_append,
    (((Turn.nodes_apart turns).map Node.id).append_right _).nodup_iff, List.map_append,
    List.map_map, List.append_assoc, List.nodup_append] at distinct
  obtain ⟨line, _, apart⟩ := distinct
  refine ⟨line, ?_, ?_⟩
  · intro turn member exit inside again
    refine apart _ again _ (List.mem_append_left _ (List.mem_map_of_mem ?_)) rfl
    exact List.mem_flatMap.mpr ⟨turn, member, List.mem_map_of_mem inside⟩
  · intro again
    exact apart _ again _ (List.mem_append_right _ List.mem_cons_self) rfl

theorem targets_distinct : (graph.edges.map Edge.target).Nodup := by
  have distinct := spine.distinct
  rw [Graph.ids, spine.nodes, List.map_append] at distinct
  have whole := (Turn.targets_perm final.id turns).nodup_iff.mpr distinct
  rw [spine.edges]
  exact (List.nodup_cons.mp whole).2

theorem outgoing_turn (before : List Turn) (turn : Turn) (after : List Turn)
    (split : turns = before ++ turn :: after) :
    graph.outgoing turn.node.id =
      turn.exitEdges ++ [⟨turn.node.id, entry final.id after, turn.onward⟩] := by
  have distinct := spine.ids_apart.1
  rw [split] at distinct
  rw [Graph.outgoing, spine.edges, split]
  exact Turn.edges_leaving final.id before turn after distinct

theorem outgoing_exit (turn : Turn) (member : turn ∈ turns) (exit : Node × Option String)
    (inside : exit ∈ turn.exits) : graph.outgoing exit.1.id = [] := by
  rw [Graph.outgoing, spine.edges]
  exact Turn.edges_elsewhere final.id _ turns (spine.ids_apart.2.1 turn member exit inside)

theorem outgoing_final : graph.outgoing final.id = [] := by
  rw [Graph.outgoing, spine.edges]
  exact Turn.edges_elsewhere final.id _ turns spine.ids_apart.2.2

theorem node_found (turn : Turn) (member : turn ∈ turns) (node : Node) (inside : node ∈ turn.nodes) :
    graph.node? node.id = some node := by
  apply node_of_id graph spine.distinct
  rw [spine.nodes]
  exact List.mem_append_left _ (List.mem_flatMap.mpr ⟨turn, member, inside⟩)

theorem final_found : graph.node? final.id = some final := by
  apply node_of_id graph spine.distinct
  rw [spine.nodes]
  exact List.mem_append_right _ List.mem_cons_self

omit spine in
theorem paths_leaf (fuel : Nat) (visited : List String) (node : Node) (fresh : node.id ∉ visited)
    (found : graph.node? node.id = some node) (leaf : graph.outgoing node.id = []) :
    graph.pathsFrom (fuel + 1) visited node.id = [[node]] := by
  simp [pathsFrom, found, fresh, leaf]

omit spine in
theorem paths_on (fuel : Nat) (visited : List String) (node : Node) (fresh : node.id ∉ visited)
    (found : graph.node? node.id = some node) (leads : graph.outgoing node.id ≠ []) :
    graph.pathsFrom (fuel + 1) visited node.id = (graph.outgoing node.id).flatMap fun edge =>
      (graph.pathsFrom fuel (node.id :: visited) edge.target).map (node :: ·) := by
  rw [pathsFrom, found]
  simp only [if_neg fresh]

theorem later_apart (before : List Turn) (turn : Turn) (after : List Turn)
    (split : turns = before ++ turn :: after) :
    ∀ node ∈ turn.exits.map Prod.fst ++ (after.flatMap Turn.nodes ++ [final]),
      node.id ≠ turn.node.id := by
  have distinct := spine.distinct
  rw [Graph.ids, spine.nodes, split, List.flatMap_append, List.append_assoc, List.map_append]
    at distinct
  have behind := (List.nodup_append.mp distinct).2.1
  rw [List.flatMap_cons, Turn.nodes, List.cons_append, List.cons_append, List.append_assoc,
    List.map_cons, List.nodup_cons] at behind
  intro node member same
  exact behind.1 (same ▸ List.mem_map_of_mem member)

theorem paths_ahead (before ahead : List Turn) (split : turns = before ++ ahead) (fuel : Nat)
    (visited : List String) (enough : ahead.length < fuel)
    (fresh : ∀ node ∈ ahead.flatMap Turn.nodes ++ [final], node.id ∉ visited) :
    graph.pathsFrom fuel visited (entry final.id ahead) =
      sidePaths ahead ++ [ahead.map Turn.node ++ [final]] := by
  induction ahead generalizing before fuel visited with
  | nil =>
      obtain ⟨fuel, rfl⟩ := Nat.exists_eq_add_of_lt enough
      exact paths_leaf _ visited final (fresh final List.mem_cons_self) spine.final_found
        spine.outgoing_final
  | cons turn after ih =>
      obtain ⟨fuel, rfl⟩ : ∃ more, fuel = more + 1 := Nat.exists_eq_succ_of_ne_zero (by omega)
      have further : after.length < fuel := Nat.lt_of_succ_lt_succ enough
      have member : turn ∈ turns := by
        rw [split]
        exact List.mem_append_right _ List.mem_cons_self
      rw [List.flatMap_cons, Turn.nodes, List.cons_append, List.cons_append, List.append_assoc,
        List.forall_mem_cons] at fresh
      obtain ⟨new, others⟩ := fresh
      have apart : ∀ node ∈ turn.exits.map Prod.fst ++ (after.flatMap Turn.nodes ++ [final]),
          node.id ∉ turn.node.id :: visited := by
        intro node later known
        cases List.mem_cons.mp known with
        | inl same => exact spine.later_apart before turn after split node later same
        | inr met => exact others node later met
      have leads := spine.outgoing_turn before turn after split
      have aside : ∀ exit ∈ turn.exits,
          graph.pathsFrom fuel (turn.node.id :: visited) exit.1.id = [[exit.1]] := by
        intro exit inside
        have listed : exit.1 ∈ turn.exits.map Prod.fst := List.mem_map_of_mem inside
        obtain ⟨less, rfl⟩ : ∃ less, fuel = less + 1 := Nat.exists_eq_succ_of_ne_zero (by omega)
        exact paths_leaf less _ exit.1 (apart exit.1 (List.mem_append_left _ listed))
          (spine.node_found turn member exit.1 (List.mem_cons_of_mem _ listed))
          (spine.outgoing_exit turn member exit inside)
      have onward := ih (before ++ [turn]) (by simp [split]) fuel (turn.node.id :: visited) further
        fun node later => apart node (List.mem_append_right _ later)
      have exits : (turn.exitEdges.flatMap fun edge =>
          (graph.pathsFrom fuel (turn.node.id :: visited) edge.target).map (turn.node :: ·)) =
            turn.exits.map fun exit => [turn.node, exit.1] := by
        rw [Turn.exitEdges, List.flatMap_map, ← List.flatMap_singleton' (turn.exits.map _),
          List.flatMap_map]
        apply List.flatMap_congr
        intro exit inside
        simp only [aside exit inside, List.map_singleton]
      have found := spine.node_found turn member turn.node List.mem_cons_self
      have some_edge : graph.outgoing turn.node.id ≠ [] := by
        rw [leads]
        exact List.append_ne_nil_of_right_ne_nil _ (List.cons_ne_nil _ _)
      rw [entry, paths_on fuel visited turn.node new found some_edge, leads,
        List.flatMap_append, exits, List.flatMap_singleton, onward, sidePaths, List.map_append,
        List.append_assoc]
      rfl

theorem paths_eq (starts : graph.starts.map Node.id = [entry final.id turns]) :
    graph.paths = sidePaths turns ++ [turns.map Turn.node ++ [final]] := by
  obtain ⟨start, only, first⟩ := List.map_eq_singleton_iff.mp starts
  have enough : turns.length < graph.nodes.length := by
    rw [spine.nodes, List.length_append, Turn.nodes_length, List.length_singleton]
    omega
  rw [paths, only, List.flatMap_singleton, first]
  exact spine.paths_ahead [] turns rfl _ [] enough fun _ _ none => (nomatch none)

end Spine

end Graph

end ProcessDiagram
