import ProcessDiagram.Proofs.Graph.Tree
import ProcessDiagram.Proofs.Layout.Row

set_option autoImplicit false

namespace ProcessDiagram.Row

open Reach (Leads Linked Search)
open Relation (ReflTransGen)

namespace Walk

def search (walk : Walk) : Search String :=
  ⟨walk.waiting.map Prod.fst, (Table.keys walk.rows).reverse⟩

theorem next_targets (graph : Graph) (id : String) :
    Reach.next graph.links id = (graph.outgoing id).map Edge.target := by
  rw [Reach.next, Graph.links, List.filter_map, List.map_map]
  rfl

theorem branches_targets (row low : Nat) (edges : List Edge) :
    (branches row low edges).map Prod.fst = edges.map Edge.target := by
  cases edges with
  | nil => rfl
  | cons first others =>
      have each := congrArg (List.map Edge.target) (List.zipIdx_map_fst 0 others)
      rw [List.map_map] at each
      rw [branches, List.map_cons, List.map_map, List.map_cons]
      exact congrArg _ each

variable (graph : Graph)

theorem step_search (walk : Walk) (some_waiting : walk.waiting ≠ []) :
    Search.Step graph.links walk.search (walk.step graph).search := by
  obtain ⟨rows, low, waiting⟩ := walk
  cases waiting with
  | nil => exact absurd rfl some_waiting
  | cons head rest =>
      obtain ⟨id, row⟩ := head
      by_cases met : id ∈ Table.keys rows
      · rw [step_met graph rows low row id rest met]
        exact .known _ _ _ id (.refl _) (List.mem_reverse.mpr met)
      · have new : id ∉ (Table.keys rows).reverse := mt List.mem_reverse.mp met
        have seen : (Table.keys (rows ++ [(id, row)])).reverse =
            id :: (Table.keys rows).reverse := by
          simp [Table.keys]
        have waits : (branches row low (graph.outgoing id) ++ rest).map Prod.fst =
            Reach.next graph.links id ++ rest.map Prod.fst := by
          rw [List.map_append, branches_targets, next_targets]
        rw [step_fresh graph rows low row id rest met, search, search, seen, waits]
        exact .fresh _ _ _ id (.refl _) new

theorem run_ended (fuel : Nat) (walk : Walk) (ended : walk.waiting = []) :
    walk.run graph fuel = walk := by
  induction fuel with
  | zero => rfl
  | succ fuel ih =>
      have still : walk.step graph = walk := by rw [step, ended]
      rw [run, still, ih]

theorem run_search (fuel : Nat) (walk : Walk)
    (enough : Search.load graph.links walk.search ≤ fuel) :
    ReflTransGen (Search.Step graph.links) walk.search (walk.run graph fuel).search ∧
      (walk.run graph fuel).waiting = [] := by
  induction fuel generalizing walk with
  | zero =>
      have none_waiting : walk.search.waiting.length = 0 := by
        rw [Search.load] at enough
        omega
      exact ⟨.refl, List.map_eq_nil_iff.mp (List.eq_nil_of_length_eq_zero none_waiting)⟩
  | succ fuel ih =>
      by_cases ended : walk.waiting = []
      · rw [run_ended graph (fuel + 1) walk ended]
        exact ⟨.refl, ended⟩
      · have step := step_search graph walk ended
        have lighter := Search.step_load graph.links _ _ step
        obtain ⟨later, none_waiting⟩ := ih (walk.step graph) (by omega)
        exact ⟨.head step later, none_waiting⟩

-- The first edge out of each node that was met leads on in the row of the node, or waits to.
def Onward (walk : Walk) : Prop :=
  ∀ id row, (id, row) ∈ walk.rows → ∀ edge ∈ (graph.outgoing id).head?,
    (edge.target, row) ∈ walk.rows ∨ (edge.target, row) ∈ walk.waiting

theorem first_branch (row low : Nat) (edges : List Edge) (edge : Edge)
    (first : edge ∈ edges.head?) : (edge.target, row) ∈ branches row low edges := by
  cases edges with
  | nil => cases first
  | cons head others =>
      cases first
      exact List.mem_cons_self

theorem step_onward (start : String) (walk : Walk)
    (straight : Search.Straight graph.links start walk.search) (onward : Onward graph walk) :
    Onward graph (walk.step graph) := by
  obtain ⟨rows, low, waiting⟩ := walk
  cases waiting with
  | nil => exact onward
  | cons head rest =>
      obtain ⟨id, row⟩ := head
      -- The node that is taken was not met before.
      have fresh : id ∉ Table.keys rows := by
        intro met
        exact (List.nodup_append.mp straight.once).2.2 id List.mem_cons_self id
          (List.mem_reverse.mpr met) rfl
      rw [step_fresh graph rows low row id rest fresh]
      intro other at_row member edge first
      rcases List.mem_append.mp member with old | new
      · rcases onward other at_row old edge first with earlier | waits
        · exact .inl (List.mem_append_left _ earlier)
        · rcases List.mem_cons.mp waits with taken | later
          · exact .inl (List.mem_append_right _ (List.mem_singleton.mpr taken))
          · exact .inr (List.mem_append_right _ later)
      · cases List.mem_singleton.mp new
        exact .inr (List.mem_append_left _ (first_branch row low _ edge first))

theorem run_onward (start : String) (single : (graph.links.map Prod.snd).Nodup)
    (root : ∀ first, ¬ Linked graph.links first start) (fuel : Nat) (walk : Walk)
    (straight : Search.Straight graph.links start walk.search) (onward : Onward graph walk) :
    Search.Straight graph.links start (walk.run graph fuel).search ∧
      Onward graph (walk.run graph fuel) := by
  induction fuel generalizing walk with
  | zero => exact ⟨straight, onward⟩
  | succ fuel ih =>
      by_cases ended : walk.waiting = []
      · rw [run_ended graph (fuel + 1) walk ended]
        exact ⟨straight, onward⟩
      · exact ih (walk.step graph)
          (Search.step_straight graph.links _ _ start single root (step_search graph walk ended)
            straight)
          (step_onward graph start walk straight onward)

theorem settle_met (walk : Walk) (id : String) (met : id ∈ Table.keys walk.rows) :
    walk.settle id = walk := by
  rw [settle, if_pos ((Table.get_is_some id walk.rows).mpr met)]

theorem settle_all_met (ids : List String) (walk : Walk)
    (met : ∀ id ∈ ids, id ∈ Table.keys walk.rows) : ids.foldl settle walk = walk := by
  induction ids with
  | nil => rfl
  | cons id rest ih =>
      rw [List.forall_mem_cons] at met
      rw [List.foldl_cons, settle_met walk id met.1, ih met.2]

def whole : Walk :=
  (start graph).run graph (graph.nodes.length + graph.edges.length)

theorem enough_steps :
    Search.load graph.links (start graph).search ≤ graph.nodes.length + graph.edges.length := by
  have few : (start graph).search.waiting.length ≤ graph.nodes.length := by
    rw [search, start, List.map_map, List.length_map]
    split
    · exact List.length_take_le' 1 graph.nodes
    · exact List.length_filter_le _ graph.nodes
  have followed : Reach.unfollowed graph.links [] ≤ graph.edges.length :=
    List.countP_le_length.trans (List.length_map _).le
  exact Nat.add_le_add few followed

theorem whole_ended : (whole graph).waiting = [] :=
  (run_search graph _ _ (enough_steps graph)).2

section Tree

variable (tree : graph.Tree) (first : Node) (only : graph.starts = [first])

include only

theorem walk_start : start graph = ⟨[], 1, [(first.id, 0)]⟩ := by
  rw [start, only]
  rfl

include tree

theorem whole_meets (id : String) (known : id ∈ graph.ids) :
    id ∈ Table.keys (whole graph).rows := by
  have steps := (run_search graph _ _ (enough_steps graph)).1
  have begun : (start graph).search = ⟨[first.id], []⟩ := by
    rw [walk_start graph first only]
    rfl
  have emptied : (whole graph).search = ⟨[], (Table.keys (whole graph).rows).reverse⟩ := by
    rw [search, whole_ended graph]
    rfl
  rw [← whole, begun, emptied] at steps
  have led := tree.sound.reached first (only ▸ List.mem_singleton_self first) id known
  exact List.mem_reverse.mp ((Search.ended_iff graph.links first.id _ steps id).mpr led)

theorem whole_kept :
    Search.Straight graph.links first.id (whole graph).search ∧ Onward graph (whole graph) := by
  have begun := walk_start graph first only
  have single : (graph.links.map Prod.snd).Nodup := by
    rw [Graph.links, List.map_map]
    exact tree.entries
  apply run_onward graph first.id single (tree.start_first first only)
  · rw [begun]
    exact Search.start_straight graph.links first.id
  · rw [begun]
    intro other at_row none
    cases none

theorem rows_of_tree : ofGraph graph = (whole graph).rows := by
  rw [ofGraph]
  exact congrArg rows
    (settle_all_met graph.ids (whole graph) (whole_meets graph tree first only))

end Tree

end Walk

theorem first_stays (graph : Graph) (tree : graph.Tree) (id : String) (known : id ∈ graph.ids)
    (edge : Edge) (first : edge ∈ (graph.outgoing id).head?) :
    rowOf graph edge.target = rowOf graph id := by
  obtain ⟨start, only⟩ := tree.sound.start
  obtain ⟨row, member⟩ :=
    (Table.mem_keys id _).mp (Walk.whole_meets graph tree start only id known)
  obtain ⟨straight, onward⟩ := Walk.whole_kept graph tree start only
  have target : (edge.target, row) ∈ (Walk.whole graph).rows := by
    obtain met | waits := onward id row member edge first
    · exact met
    · rw [Walk.whole_ended graph] at waits
      cases waits
  have single : (Table.keys (Walk.whole graph).rows).Nodup :=
    List.nodup_reverse.mp (List.nodup_append.mp straight.once).2.1
  rw [rowOf, rowOf, Walk.rows_of_tree graph tree start only,
    Table.get_of_mem _ _ _ single target, Table.get_of_mem _ _ _ single member]

end ProcessDiagram.Row
