import Mathlib.Data.List.Pairwise
import Mathlib.Logic.Relation
import ProcessDiagram.Layout.Row
import ProcessDiagram.Proofs.Graph.Sound
import ProcessDiagram.Proofs.Table

set_option autoImplicit false

namespace ProcessDiagram.Row

open Reach (Linked)
open Relation (TransGen)

abbrev Behind (graph : Graph) : String → String → Prop :=
  TransGen (Linked graph.links)

def FirstLinked (graph : Graph) (first second : String) : Prop :=
  ∃ edge ∈ (graph.outgoing first).head?, edge.target = second

-- Reached by the first edge out of each node on the way, and by no other edge.
abbrev Along (graph : Graph) : String → String → Prop :=
  TransGen (FirstLinked graph)

namespace Walk

def Chained (graph : Graph) (rows : Table String Nat) : Prop :=
  rows.Pairwise fun first second => first.2 = second.2 → Along graph first.1 second.1

-- What is left of the invariant when the walk has ended.
structure Settled (graph : Graph) (walk : Walk) : Prop where
  low : ∀ id row, (id, row) ∈ walk.rows → row < walk.next
  chained : Chained graph walk.rows

-- What holds of a walk under way.
structure Steady (graph : Graph) (walk : Walk) : Prop extends Settled graph walk where
  lowWaiting : ∀ id row, (id, row) ∈ walk.waiting → row < walk.next
  single : (walk.waiting.map Prod.snd).Nodup
  behind : ∀ id row, (id, row) ∈ walk.waiting → ∀ met, (met, row) ∈ walk.rows →
    Along graph met id

theorem chained_append (graph : Graph) (rows : Table String Nat) (id : String) (row : Nat)
    (chained : Chained graph rows) (last : ∀ met, (met, row) ∈ rows → Along graph met id) :
    Chained graph (rows ++ [(id, row)]) := by
  rw [Chained, List.pairwise_append]
  refine ⟨chained, List.pairwise_singleton _ _, ?_⟩
  rintro ⟨met, other⟩ old second new same
  cases List.mem_singleton.mp new
  simp only at same
  subst same
  exact last met old

theorem start_steady (graph : Graph) (sole : graph.starts.length ≤ 1) :
    Steady graph (start graph) := by
  have few : ((start graph).waiting.map Prod.snd).length ≤ 1 := by
    rw [start, List.map_map, List.length_map]
    split
    · rw [List.length_take]
      exact Nat.min_le_left 1 _
    · exact sole
  have zero : ∀ id row, (id, row) ∈ (start graph).waiting → row = 0 := by
    intro id row member
    obtain ⟨_, _, same⟩ := List.mem_map.mp member
    exact (congrArg Prod.snd same).symm
  refine ⟨⟨?_, List.Pairwise.nil⟩, ?_, ?_, ?_⟩
  · intro id row member
    cases member
  · intro id row member
    rw [zero id row member]
    exact Nat.one_pos
  · generalize (start graph).waiting.map Prod.snd = rows at few
    match rows, few with
    | [], _ => exact List.nodup_nil
    | [row], _ => exact List.nodup_singleton row
  · intro id row _ met member
    cases member

theorem mem_branches (row next : Nat) (edges : List Edge) (id : String) (other : Nat)
    (member : (id, other) ∈ branches row next edges) :
    (other = row ∧ ∃ edge ∈ edges.head?, edge.target = id) ∨
      next ≤ other ∧ other < next + (edges.length - 1) := by
  cases edges with
  | nil => cases member
  | cons first others =>
      rw [branches] at member
      rcases List.mem_cons.mp member with same | later
      · cases same
        exact .inl ⟨rfl, first, rfl, rfl⟩
      · obtain ⟨⟨edge, index⟩, inside, same⟩ := List.mem_map.mp later
        have bound := List.snd_lt_of_mem_zipIdx inside
        cases same
        refine .inr ⟨by omega, ?_⟩
        simp only [List.length_cons] at bound ⊢
        omega

theorem branches_single (row next : Nat) (edges : List Edge) (low : row < next) :
    ((branches row next edges).map Prod.snd).Nodup := by
  cases edges with
  | nil => exact List.nodup_nil
  | cons first others =>
      have rows : (branches row next (first :: others)).map Prod.snd =
          row :: (others.zipIdx.map Prod.snd).map (next + ·) := by
        rw [branches, List.map_cons, List.map_map, List.map_map]
        rfl
      rw [rows, List.zipIdx_map_snd, List.nodup_cons]
      refine ⟨?_, (List.nodup_range' 1).map fun _ _ => Nat.add_left_cancel⟩
      intro member
      obtain ⟨index, _, same⟩ := List.mem_map.mp member
      omega

theorem step_met (graph : Graph) (rows : Table String Nat) (next row : Nat) (id : String)
    (rest : List (String × Nat)) (met : id ∈ Table.keys rows) :
    step graph ⟨rows, next, (id, row) :: rest⟩ = ⟨rows, next, rest⟩ := by
  have known := (Table.get_is_some id rows).mpr met
  simp only [step, known, if_true]

theorem step_fresh (graph : Graph) (rows : Table String Nat) (next row : Nat) (id : String)
    (rest : List (String × Nat)) (fresh : id ∉ Table.keys rows) :
    step graph ⟨rows, next, (id, row) :: rest⟩ =
      ⟨rows ++ [(id, row)], next + ((graph.outgoing id).length - 1),
        branches row next (graph.outgoing id) ++ rest⟩ := by
  have unknown := mt (Table.get_is_some id rows).mp fresh
  simp only [step, if_neg unknown, Table.put_fresh id row rows fresh]

theorem outgoing_link (graph : Graph) (id : String) (edge : Edge)
    (member : edge ∈ graph.outgoing id) : Linked graph.links id edge.target := by
  obtain ⟨known, leaves⟩ := List.mem_filter.mp member
  exact (graph.linked_iff _ _).mpr ⟨edge, known, of_decide_eq_true leaves, rfl⟩

section Fresh

variable (graph : Graph) (rows : Table String Nat) (next row : Nat) (id : String)
  (rest : List (String × Nat)) (steady : Steady graph ⟨rows, next, (id, row) :: rest⟩)

include steady

theorem row_low : row < next :=
  steady.lowWaiting id row List.mem_cons_self

theorem row_apart (other : String) : (other, row) ∉ rest := by
  intro member
  exact (List.nodup_cons.mp steady.single).1 (List.mem_map.mpr ⟨(other, row), member, rfl⟩)

theorem fresh_single :
    ((branches row next (graph.outgoing id) ++ rest).map Prod.snd).Nodup := by
  have low := row_low graph rows next row id rest steady
  rw [List.map_append, List.nodup_append]
  refine ⟨branches_single row next _ low, (List.nodup_cons.mp steady.single).2, ?_⟩
  intro first inNew second inOld same
  obtain ⟨⟨target, one⟩, new, rfl⟩ := List.mem_map.mp inNew
  obtain ⟨⟨other, two⟩, old, rfl⟩ := List.mem_map.mp inOld
  simp only at same
  subst same
  rcases mem_branches row next _ target one new with ⟨same, _⟩ | ⟨high, _⟩
  · exact row_apart graph rows next row id rest steady other (same ▸ old)
  · have bound := steady.lowWaiting other one (List.mem_cons_of_mem _ old)
    simp only at bound
    omega

theorem fresh_behind (other : String) (at_row : Nat)
    (member : (other, at_row) ∈ branches row next (graph.outgoing id) ++ rest) (met : String)
    (inRows : (met, at_row) ∈ rows ++ [(id, row)]) : Along graph met other := by
  have low := row_low graph rows next row id rest steady
  rcases List.mem_append.mp member with new | old
  · rcases mem_branches row next _ other at_row new with ⟨same, first⟩ | ⟨high, _⟩
    · -- The place goes on from the node, which lies behind all others in the row.
      have link : Along graph id other := TransGen.single first
      rcases List.mem_append.mp inRows with before | last
      · exact (steady.behind id row List.mem_cons_self met (same ▸ before)).trans link
      · cases List.mem_singleton.mp last
        exact link
    · -- The row is a new one, so nothing stands in it.
      rcases List.mem_append.mp inRows with before | last
      · have bound := steady.low met at_row before
        simp only at bound
        omega
      · cases List.mem_singleton.mp last
        omega
  · rcases List.mem_append.mp inRows with before | last
    · exact steady.behind other at_row (List.mem_cons_of_mem _ old) met before
    · cases List.mem_singleton.mp last
      exact absurd old (row_apart graph rows next row id rest steady other)

theorem fresh_steady :
    Steady graph ⟨rows ++ [(id, row)], next + ((graph.outgoing id).length - 1),
      branches row next (graph.outgoing id) ++ rest⟩ := by
  have low := row_low graph rows next row id rest steady
  refine ⟨⟨?_, ?_⟩, ?_, fresh_single graph rows next row id rest steady,
    fresh_behind graph rows next row id rest steady⟩
  · intro other r member
    rcases List.mem_append.mp member with old | new
    · exact Nat.lt_add_right _ (steady.low other r old)
    · cases List.mem_singleton.mp new
      exact Nat.lt_add_right _ low
  · exact chained_append graph rows id row steady.chained (steady.behind id row List.mem_cons_self)
  · intro other r member
    rcases List.mem_append.mp member with new | old
    · rcases mem_branches row next _ other r new with ⟨same, _⟩ | ⟨_, high⟩
      · rw [same]
        exact Nat.lt_add_right _ low
      · exact high
    · exact Nat.lt_add_right _ (steady.lowWaiting other r (List.mem_cons_of_mem _ old))

end Fresh

theorem step_steady (graph : Graph) (walk : Walk) (steady : Steady graph walk) :
    Steady graph (walk.step graph) := by
  obtain ⟨rows, next, waiting⟩ := walk
  cases waiting with
  | nil => exact steady
  | cons head rest =>
      obtain ⟨id, row⟩ := head
      by_cases met : id ∈ Table.keys rows
      · rw [step_met graph rows next row id rest met]
        exact ⟨⟨steady.low, steady.chained⟩,
          fun other r member => steady.lowWaiting other r (List.mem_cons_of_mem _ member),
          (List.nodup_cons.mp steady.single).2,
          fun other r member => steady.behind other r (List.mem_cons_of_mem _ member)⟩
      · rw [step_fresh graph rows next row id rest met]
        exact fresh_steady graph rows next row id rest steady

theorem run_steady (graph : Graph) (fuel : Nat) (walk : Walk) (steady : Steady graph walk) :
    Steady graph (walk.run graph fuel) := by
  induction fuel generalizing walk with
  | zero => exact steady
  | succ fuel ih => exact ih _ (step_steady graph walk steady)

theorem settle_settled (graph : Graph) (walk : Walk) (id : String)
    (settled : Settled graph walk) : Settled graph (walk.settle id) := by
  by_cases met : (Table.get? id walk.rows).isSome
  · rw [settle, if_pos met]
    exact settled
  · have fresh : id ∉ Table.keys walk.rows := fun known =>
      met ((Table.get_is_some id walk.rows).mpr known)
    rw [settle, if_neg met, Table.put_fresh id walk.next walk.rows fresh]
    constructor
    · intro other row member
      rcases List.mem_append.mp member with old | new
      · exact Nat.lt_succ_of_lt (settled.low other row old)
      · cases List.mem_singleton.mp new
        exact Nat.lt_succ_self _
    · -- A row that is opened for the node is empty.
      refine chained_append graph walk.rows id walk.next settled.chained ?_
      intro met old
      exact absurd (settled.low met walk.next old) (Nat.lt_irrefl _)

theorem settle_all (graph : Graph) (ids : List String) (walk : Walk)
    (settled : Settled graph walk) : Settled graph (ids.foldl settle walk) := by
  induction ids generalizing walk with
  | nil => exact settled
  | cons id rest ih => exact ih _ (settle_settled graph walk id settled)

theorem settle_keeps (walk : Walk) (id other : String) (known : other ∈ Table.keys walk.rows) :
    other ∈ Table.keys (walk.settle id).rows := by
  rw [settle]
  split
  · exact known
  · exact (Table.mem_keys_put id other _ _).mpr (.inr known)

theorem settle_meets (walk : Walk) (id : String) : id ∈ Table.keys (walk.settle id).rows := by
  rw [settle]
  split
  · rename_i met
    exact (Table.get_is_some id walk.rows).mp met
  · exact (Table.mem_keys_put id id _ _).mpr (.inl rfl)

theorem settle_all_keeps (ids : List String) (walk : Walk) (id : String)
    (known : id ∈ Table.keys walk.rows) : id ∈ Table.keys (ids.foldl settle walk).rows := by
  induction ids generalizing walk with
  | nil => exact known
  | cons first rest ih => exact ih _ (settle_keeps walk first id known)

theorem settle_all_meets (ids : List String) (walk : Walk) (id : String) (member : id ∈ ids) :
    id ∈ Table.keys (ids.foldl settle walk).rows := by
  induction ids generalizing walk with
  | nil => cases member
  | cons first rest ih =>
      rcases List.mem_cons.mp member with rfl | later
      · exact settle_all_keeps rest _ id (settle_meets walk id)
      · exact ih _ later

end Walk

def rowOf (graph : Graph) (id : String) : Nat :=
  (Table.get? id (ofGraph graph)).getD 0

theorem rows_settled (graph : Graph) (sole : graph.starts.length ≤ 1) :
    Walk.Settled graph (graph.ids.foldl Walk.settle
      ((Walk.start graph).run graph (graph.nodes.length + graph.edges.length))) := by
  have steady := Walk.run_steady graph (graph.nodes.length + graph.edges.length) _
    (Walk.start_steady graph sole)
  exact Walk.settle_all graph graph.ids _ steady.toSettled

theorem same_row_along (graph : Graph) (sole : graph.starts.length ≤ 1) (first second : String)
    (row : Nat) (member : (first, row) ∈ ofGraph graph) (other : (second, row) ∈ ofGraph graph)
    (apart : first ≠ second) : Along graph first second ∨ Along graph second first := by
  have joined := (rows_settled graph sole).chained.imp (S := fun one two : String × Nat =>
    one.2 = two.2 → Along graph one.1 two.1 ∨ Along graph two.1 one.1)
    fun chained same => .inl (chained same)
  have symmetric : Std.Symm fun one two : String × Nat => one.2 = two.2 →
      Along graph one.1 two.1 ∨ Along graph two.1 one.1 :=
    ⟨fun _ _ joined same => (joined same.symm).symm⟩
  exact joined.forall member other (fun same => apart (congrArg Prod.fst same)) rfl

theorem along_behind (graph : Graph) (first second : String)
    (along : Along graph first second) : Behind graph first second := by
  refine TransGen.mono ?_ first second along
  rintro source target ⟨edge, chosen, rfl⟩
  exact Walk.outgoing_link graph source edge (List.mem_of_mem_head? chosen)

theorem same_row_leads (graph : Graph) (sole : graph.starts.length ≤ 1) (first second : String)
    (member : first ∈ graph.ids) (other : second ∈ graph.ids) (apart : first ≠ second)
    (same : (Table.get? first (ofGraph graph)).getD 0 = (Table.get? second (ofGraph graph)).getD 0) :
    Behind graph first second ∨ Behind graph second first := by
  have known : ∀ id ∈ graph.ids, ∃ row, Table.get? id (ofGraph graph) = some row :=
    fun id inside => Table.get_exists id _ (Walk.settle_all_meets graph.ids _ id inside)
  obtain ⟨row, found⟩ := known first member
  obtain ⟨otherRow, otherFound⟩ := known second other
  rw [found, otherFound, Option.getD_some, Option.getD_some] at same
  subst same
  exact (same_row_along graph sole first second row (Table.get_mem first row _ found)
    (Table.get_mem second row _ otherFound) apart).imp (along_behind graph first second)
    (along_behind graph second first)

end ProcessDiagram.Row
