import ProcessDiagram.Proofs.Layout.Rank

set_option autoImplicit false

namespace ProcessDiagram.Rank

open Reach (Leads Linked)
open Relation (TransGen)

inductive Approach (graph : Graph) : Nat → String → Prop where
  | here (id : String) : Approach graph 0 id
  | step (length : Nat) (edge : Edge) (member : edge ∈ graph.edges)
      (settled : Settled graph edge.source) (before : Approach graph length edge.source) :
      Approach graph (length + 1) edge.target

structure Longest (graph : Graph) (id : String) (rank : Nat) : Prop where
  reached : Approach graph rank id
  bound : ∀ length, Approach graph length id → length ≤ rank

inductive InColumn (graph : Graph) (id : String) : Nat → Prop where
  | settled (rank : Nat) (settled : Settled graph id) (longest : Longest graph id rank) :
      InColumn graph id rank
  | leftOver (rank : Nat) (cyclic : ¬ Settled graph id) (longest : Longest graph id rank) :
      InColumn graph id (max rank (graph.ids.idxOf id))

theorem approach_behind (graph : Graph) (first second : String) (settled : Settled graph second)
    (behind : TransGen (Linked graph.links) first second) (length : Nat)
    (approach : Approach graph length first) : ∃ longer > length, Approach graph longer second := by
  have step : ∀ source target length, Linked graph.links source target → Settled graph source →
      Approach graph length source → Approach graph (length + 1) target := by
    intro source target length link settled approach
    obtain ⟨edge, member, rfl, rfl⟩ := (graph.linked_iff _ _).mp link
    exact .step length edge member settled approach
  induction behind with
  | single link =>
      exact ⟨length + 1, Nat.lt_succ_self _, step _ _ _ link
        (settled_before graph _ _ settled (.single link)) approach⟩
  | tail _ link ih =>
      have before := settled_before graph _ _ settled (.single link)
      obtain ⟨longer, more, way⟩ := ih before
      exact ⟨longer + 1, Nat.lt_succ_of_lt more, step _ _ _ link before way⟩

theorem settled_columns_grow (graph : Graph) (first second : String) (column later : Nat)
    (settled : Settled graph second) (behind : TransGen (Linked graph.links) first second)
    (one : InColumn graph first column) (two : InColumn graph second later) : column < later := by
  cases two with
  | leftOver _ cyclic _ => exact absurd settled cyclic
  | settled _ _ longest =>
      cases one with
      | leftOver _ cyclic _ =>
          exact absurd (settled_before graph first second settled behind.to_reflTransGen) cyclic
      | settled _ _ other =>
          obtain ⟨length, more, way⟩ :=
            approach_behind graph first second settled behind column other.reached
          exact Nat.lt_of_lt_of_le more (longest.bound length way)

theorem column_next (graph : Graph) (edge : Edge) (member : edge ∈ graph.edges)
    (only : ∀ other ∈ graph.edges, other.target = edge.target → other.source = edge.source)
    (settled : Settled graph edge.target) (column later : Nat)
    (one : InColumn graph edge.source column) (two : InColumn graph edge.target later) :
    later = column + 1 := by
  have behind := TransGen.single ((graph.linked_iff _ _).mpr ⟨edge, member, rfl, rfl⟩)
  have before := settled_before graph _ _ settled behind.to_reflTransGen
  have grows := settled_columns_grow graph _ _ column later settled behind one two
  cases two with
  | leftOver _ cyclic _ => exact absurd settled cyclic
  | settled _ _ longest =>
      cases one with
      | leftOver _ cyclic _ => exact absurd before cyclic
      | settled _ _ other =>
          -- The longest way to the node comes through the only node before it.
          generalize target : edge.target = id at longest
          cases longest.reached with
          | here => omega
          | step length last listed _ way =>
              have bound := other.bound length (only last listed target.symm ▸ way)
              omega

section Ended

variable (graph : Graph)
  (connected : ∀ edge ∈ graph.edges, edge.source ∈ graph.ids ∧ edge.target ∈ graph.ids)
  (done : List String) (sweep : Sweep) (boundary : Boundary graph done sweep)
  (ended : sweep.queue = [])

include boundary

theorem rank_reached (id : String) (known : id ∈ graph.ids) :
    Approach graph (rankOf sweep.ranks id) id := by
  obtain ⟨followed, swept, whole⟩ := boundary.swept
  -- By the rank: a rank that is not zero comes from a settled node of the rank before.
  generalize size : rankOf sweep.ranks id = rank
  induction rank generalizing id with
  | zero => exact .here id
  | succ rank ih =>
      rcases swept.tight id known with zero | ⟨edge, member, rfl, one⟩
      · omega
      · obtain ⟨listed, old⟩ := (whole edge).mp member
        have before := ih edge.source (boundary.known _ old) (by omega)
        exact .step rank edge listed (done_settled graph done sweep boundary _ old) before

include connected ended

theorem settled_iff_done (id : String) (known : id ∈ graph.ids) : Settled graph id ↔ id ∈ done :=
  ⟨settled_done graph (fun edge member => (connected edge member).1) done sweep boundary ended id
    known, done_settled graph done sweep boundary id⟩

theorem rank_bound (length : Nat) (id : String) (approach : Approach graph length id) :
    length ≤ rankOf sweep.ranks id := by
  obtain ⟨followed, swept, whole⟩ := boundary.swept
  induction approach with
  | here id => exact Nat.zero_le _
  | step length edge member settled _ ih =>
      have old := (settled_iff_done graph connected done sweep boundary ended edge.source
        (connected edge member).1).mp settled
      have grown := swept.grows edge ((whole edge).mpr ⟨member, old⟩)
      omega

theorem rank_longest (id : String) (known : id ∈ graph.ids) :
    Longest graph id (rankOf sweep.ranks id) :=
  ⟨rank_reached graph done sweep boundary id known, fun length =>
    rank_bound graph connected done sweep boundary ended length id⟩

theorem remaining_left (id : String) (known : id ∈ graph.ids) :
    0 < (Table.get? id sweep.remaining).getD 0 ↔ ¬ Settled graph id := by
  obtain ⟨followed, swept, _⟩ := boundary.swept
  rw [settled_iff_done graph connected done sweep boundary ended id known,
    swept.remaining id known, Option.getD_some]
  constructor
  · intro positive old
    have none := swept.finished id old
    omega
  · intro fresh
    have waits := fresh_entered graph done sweep boundary ended id known fresh
    omega

end Ended

def raise (remaining : Table String Int) (ranks : Table String Nat) (entry : String × Nat) :
    Table String Nat :=
  if 0 < (Table.get? entry.1 remaining).getD 0 then
    Table.put entry.1 (max ((Table.get? entry.1 ranks).getD 0) entry.2) ranks
  else ranks

theorem raise_other (remaining : Table String Int) (ranks : Table String Nat)
    (entry : String × Nat) (id : String) (apart : entry.1 ≠ id) :
    rankOf (raise remaining ranks entry) id = rankOf ranks id := by
  rw [raise]
  split
  · rw [rankOf, Table.get?_put, if_neg apart, rankOf]
  · rfl

theorem raise_here (remaining : Table String Int) (ranks : Table String Nat) (id : String)
    (order : Nat) :
    rankOf (raise remaining ranks (id, order)) id =
      if 0 < (Table.get? id remaining).getD 0 then max (rankOf ranks id) order
      else rankOf ranks id := by
  rw [raise]
  split
  · rw [rankOf, Table.get?_put, if_pos rfl, Option.getD_some, rankOf]
  · rfl

theorem raise_all_other (remaining : Table String Int) (entries : List (String × Nat))
    (ranks : Table String Nat) (id : String) (apart : id ∉ entries.map Prod.fst) :
    rankOf (entries.foldl (raise remaining) ranks) id = rankOf ranks id := by
  induction entries generalizing ranks with
  | nil => rfl
  | cons entry rest ih =>
      rw [List.map_cons, List.mem_cons, not_or] at apart
      rw [List.foldl_cons, ih _ apart.2, raise_other _ _ _ _ (Ne.symm apart.1)]

theorem raise_all_here (remaining : Table String Int) (entries : List (String × Nat))
    (ranks : Table String Nat) (id : String) (order : Nat)
    (distinct : (entries.map Prod.fst).Nodup) (member : (id, order) ∈ entries) :
    rankOf (entries.foldl (raise remaining) ranks) id =
      if 0 < (Table.get? id remaining).getD 0 then max (rankOf ranks id) order
      else rankOf ranks id := by
  induction entries generalizing ranks with
  | nil => cases member
  | cons entry rest ih =>
      rw [List.map_cons, List.nodup_cons] at distinct
      rw [List.foldl_cons]
      rcases List.mem_cons.mp member with rfl | later
      · rw [raise_all_other _ _ _ _ distinct.1, raise_here]
      · have apart : entry.1 ≠ id := fun same =>
          distinct.1 (same ▸ List.mem_map_of_mem later)
        rw [ih _ distinct.2 later, raise_other _ _ _ _ apart]

theorem settle_rank (graph : Graph) (sweep : Sweep) (distinct : graph.ids.Nodup) (id : String)
    (known : id ∈ graph.ids) (some_left : sweep.taken ≠ graph.nodes.length) :
    rankOf (sweep.settle graph) id =
      if 0 < (Table.get? id sweep.remaining).getD 0 then
        max (rankOf sweep.ranks id) (graph.ids.idxOf id)
      else rankOf sweep.ranks id := by
  have raised : sweep.settle graph =
      graph.ids.zipIdx.foldl (raise sweep.remaining) sweep.ranks := by
    rw [Sweep.settle, if_neg some_left]
    rfl
  rw [raised]
  apply raise_all_here
  · rw [List.zipIdx_map_fst]
    exact distinct
  · exact List.mem_zipIdx_iff_getElem?.mpr (List.getElem?_idxOf known)

theorem ranks_columns (graph : Graph) (distinct : graph.ids.Nodup)
    (connected : ∀ edge ∈ graph.edges, edge.source ∈ graph.ids ∧ edge.target ∈ graph.ids) :
    ∃ ranks, ofGraph graph = .ok ranks ∧
      ∀ id ∈ graph.ids, InColumn graph id (rankOf ranks id) := by
  obtain ⟨order, last, takes, boundary, found⟩ :=
    ranks_swept graph distinct fun edge member => (connected edge member).2
  have ended := takes_ended graph _ last order takes
  refine ⟨last.settle graph, found, ?_⟩
  intro id known
  have longest := rank_longest graph connected order.reverse last boundary ended id known
  by_cases settled : Settled graph id
  · have same : rankOf (last.settle graph) id = rankOf last.ranks id := by
      by_cases complete : last.taken = graph.nodes.length
      · rw [Sweep.settle, if_pos complete]
      · rw [settle_rank graph last distinct id known complete, if_neg]
        exact fun left => (remaining_left graph connected _ last boundary ended id known).mp left
          settled
    rw [same]
    exact .settled _ settled longest
  · -- With a node left over not all nodes were taken.
    have some_left : last.taken ≠ graph.nodes.length := by
      intro complete
      have enough : graph.ids.length ≤ order.reverse.length := by
        rw [Graph.ids, List.length_map, ← complete, boundary.counted]
      exact settled (done_settled graph _ last boundary id
        (all_taken graph _ last boundary enough id known))
    rw [settle_rank graph last distinct id known some_left,
      if_pos ((remaining_left graph connected _ last boundary ended id known).mpr settled)]
    exact .leftOver _ settled longest

theorem ranks_grow (graph : Graph) (distinct : graph.ids.Nodup)
    (connected : ∀ edge ∈ graph.edges, edge.source ∈ graph.ids ∧ edge.target ∈ graph.ids)
    (acyclic : Acyclic graph) :
    ∃ ranks, ofGraph graph = .ok ranks ∧
      ∀ edge ∈ graph.edges, rankOf ranks edge.source < rankOf ranks edge.target := by
  obtain ⟨ranks, found, columns⟩ := ranks_columns graph distinct connected
  refine ⟨ranks, found, ?_⟩
  intro edge member
  obtain ⟨source, target⟩ := connected edge member
  have behind := TransGen.single ((graph.linked_iff _ _).mpr ⟨edge, member, rfl, rfl⟩)
  exact settled_columns_grow graph _ _ _ _ (acyclic_settled graph acyclic edge.target) behind
    (columns _ source) (columns _ target)

end ProcessDiagram.Rank
