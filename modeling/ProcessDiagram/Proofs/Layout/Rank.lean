import Mathlib.Data.List.Perm.Subperm
import ProcessDiagram.Layout.Rank
import ProcessDiagram.Proofs.Graph.Sound
import ProcessDiagram.Proofs.Table

set_option autoImplicit false

namespace ProcessDiagram.Rank

open Reach (Leads Linked)
open Relation (TransGen)

def rankOf (ranks : Table String Nat) (id : String) : Nat :=
  (Table.get? id ranks).getD 0

def entering (edges : List Edge) (id : String) : Nat :=
  edges.countP fun edge => edge.target = id

theorem entering_cons (edge : Edge) (edges : List Edge) (id : String) :
    entering (edge :: edges) id = entering edges id + if edge.target = id then 1 else 0 := by
  simp [entering, List.countP_cons]

theorem entering_other (edge : Edge) (edges : List Edge) (id : String) (apart : id ≠ edge.target) :
    entering (edge :: edges) id = entering edges id := by
  rw [entering_cons, if_neg (Ne.symm apart), Nat.add_zero]

theorem entering_append (first second : List Edge) (id : String) :
    entering (first ++ second) id = entering first id + entering second id :=
  List.countP_append

def pendingOf (graph : Graph) (done : List String) : List Edge :=
  graph.edges.filter fun edge => edge.source ∉ done

theorem entering_pending (graph : Graph) (done : List String) (id other : String)
    (fresh : id ∉ done) :
    entering (graph.outgoing id ++ pendingOf graph (id :: done)) other =
      entering (pendingOf graph done) other := by
  rw [entering_append, Graph.outgoing, pendingOf, pendingOf]
  induction graph.edges with
  | nil => rfl
  | cons edge rest ih =>
      simp only [List.mem_cons] at ih
      by_cases leaves : edge.source = id
      · have kept : edge.source ∉ done := leaves ▸ fresh
        simp only [List.filter_cons, List.mem_cons, leaves, true_or, not_true_eq_false,
          decide_true, decide_false, if_true, Bool.false_eq_true, if_false, entering_cons,
          fresh, not_false_eq_true]
        omega
      · by_cases old : edge.source ∈ done
        · simp only [List.filter_cons, List.mem_cons, leaves, old, or_true, not_true_eq_false,
            decide_false, Bool.false_eq_true, if_false]
          exact ih
        · simp only [List.filter_cons, List.mem_cons, leaves, old, or_self, not_false_eq_true,
            decide_true, decide_false, if_true, Bool.false_eq_true, if_false, entering_cons]
          omega

-- What holds of a sweep while the edges out of the nodes that are done are followed.
structure Swept (graph : Graph) (done : List String) (pending followed : List Edge)
    (sweep : Sweep) : Prop where
  ranked : ∀ id ∈ graph.ids, id ∈ Table.keys sweep.ranks
  remaining : ∀ id ∈ graph.ids,
    Table.get? id sweep.remaining = some (entering pending id : Int)
  queued : ∀ id, id ∈ sweep.queue ↔ id ∈ graph.ids ∧ id ∉ done ∧ entering pending id = 0
  single : sweep.queue.Nodup
  finished : ∀ id ∈ done, entering pending id = 0
  leaves : ∀ edge ∈ followed, edge.source ∈ done
  grows : ∀ edge ∈ followed, rankOf sweep.ranks edge.source < rankOf sweep.ranks edge.target
  tight : ∀ id ∈ graph.ids, rankOf sweep.ranks id = 0 ∨ ∃ edge ∈ followed,
    edge.target = id ∧ rankOf sweep.ranks id = rankOf sweep.ranks edge.source + 1

section Follow

variable (graph : Graph) (done : List String) (pending followed : List Edge) (sweep : Sweep)
  (edge : Edge) (swept : Swept graph done (edge :: pending) followed sweep)

def after (sweep : Sweep) (edge : Edge) (left : Nat) : Sweep :=
  { sweep with
    ranks := Table.put edge.target
      (max (rankOf sweep.ranks edge.target) (rankOf sweep.ranks edge.source + 1)) sweep.ranks
    remaining := Table.put edge.target (left : Int) sweep.remaining
    queue := if left = 0 then sweep.queue ++ [edge.target] else sweep.queue }

theorem rank_grown (id : String) (left : Nat) :
    rankOf sweep.ranks id ≤ rankOf (after sweep edge left).ranks id := by
  by_cases same : edge.target = id
  · subst same
    rw [rankOf, rankOf, after, Table.get?_put, if_pos rfl, Option.getD_some, rankOf]
    exact Nat.le_max_left _ _
  · rw [rankOf, rankOf, after, Table.get?_put, if_neg same]

theorem target_grown (left : Nat) :
    rankOf sweep.ranks edge.source < rankOf (after sweep edge left).ranks edge.target := by
  rw [after, rankOf.eq_1 (Table.put _ _ _), Table.get?_put, if_pos rfl, Option.getD_some]
  exact Nat.lt_of_lt_of_le (Nat.lt_succ_self _) (Nat.le_max_right _ _)

include swept

theorem target_open : edge.target ∉ done := by
  intro old
  have none := swept.finished edge.target old
  rw [entering_cons, if_pos rfl] at none
  omega

theorem target_unqueued : edge.target ∉ sweep.queue := by
  intro member
  have none := ((swept.queued edge.target).mp member).2.2
  rw [entering_cons, if_pos rfl] at none
  omega

theorem follow_ok (known : edge.target ∈ graph.ids) :
    Sweep.follow sweep edge = .ok (after sweep edge (entering pending edge.target)) := by
  obtain ⟨rank, found⟩ := Table.get_exists _ _ (swept.ranked edge.target known)
  have left := swept.remaining edge.target known
  rw [entering_cons, if_pos rfl] at left
  simp only [Sweep.follow, found, left, after, rankOf]
  simp

theorem rank_kept (id : String) (old : id ∈ done) (left : Nat) :
    rankOf (after sweep edge left).ranks id = rankOf sweep.ranks id := by
  have apart : edge.target ≠ id := fun same =>
    target_open graph done pending followed sweep edge swept (same ▸ old)
  rw [rankOf, after, Table.get?_put, if_neg apart, rankOf]

theorem follow_queued (known : edge.target ∈ graph.ids) (id : String) :
    id ∈ (after sweep edge (entering pending edge.target)).queue ↔
      id ∈ graph.ids ∧ id ∉ done ∧ entering pending id = 0 := by
  have opened := target_open graph done pending followed sweep edge swept
  have unqueued := target_unqueued graph done pending followed sweep edge swept
  rw [after]
  by_cases same : id = edge.target
  · subst same
    by_cases last : entering pending edge.target = 0
    · simp [last, known, opened]
    · simp [last, unqueued]
  · rw [← entering_other edge pending id same, ← swept.queued id]
    split <;> simp [same]

theorem follow_single : (after sweep edge (entering pending edge.target)).queue.Nodup := by
  rw [after]
  split
  · rw [List.nodup_append]
    refine ⟨swept.single, List.pairwise_singleton _ _, ?_⟩
    rintro id member other last rfl
    exact target_unqueued graph done pending followed sweep edge swept
      (List.mem_singleton.mp last ▸ member)
  · exact swept.single

theorem follow_tight (old : edge.source ∈ done) (left : Nat) (id : String) (known : id ∈ graph.ids) :
    rankOf (after sweep edge left).ranks id = 0 ∨ ∃ other ∈ edge :: followed, other.target = id ∧
      rankOf (after sweep edge left).ranks id =
        rankOf (after sweep edge left).ranks other.source + 1 := by
  have kept := rank_kept graph done pending followed sweep edge swept
  have before : rankOf (after sweep edge left).ranks id = rankOf sweep.ranks id →
      rankOf (after sweep edge left).ranks id = 0 ∨ ∃ other ∈ edge :: followed, other.target = id ∧
        rankOf (after sweep edge left).ranks id =
          rankOf (after sweep edge left).ranks other.source + 1 := by
    intro same
    rw [same]
    rcases swept.tight id known with zero | ⟨other, member, target, one⟩
    · exact .inl zero
    · refine .inr ⟨other, List.mem_cons_of_mem _ member, target, ?_⟩
      rw [kept other.source (swept.leaves other member), one]
  by_cases same : edge.target = id
  · subst same
    have rank : rankOf (after sweep edge left).ranks edge.target =
        max (rankOf sweep.ranks edge.target) (rankOf sweep.ranks edge.source + 1) := by
      rw [after, rankOf.eq_1 (Table.put _ _ _), Table.get?_put, if_pos rfl, Option.getD_some]
    by_cases higher : rankOf sweep.ranks edge.source + 1 ≤ rankOf sweep.ranks edge.target
    · exact before (rank.trans (Nat.max_eq_left higher))
    · refine .inr ⟨edge, List.mem_cons_self, rfl, ?_⟩
      rw [rank, kept edge.source old]
      omega
  · apply before
    rw [rankOf, after, Table.get?_put, if_neg same, rankOf]

theorem follow_swept (known : edge.target ∈ graph.ids) (old : edge.source ∈ done) :
    Swept graph done pending (edge :: followed)
      (after sweep edge (entering pending edge.target)) := by
  have kept := rank_kept graph done pending followed sweep edge swept
  have grown := rank_grown sweep edge
  refine ⟨?_, ?_, follow_queued graph done pending followed sweep edge swept known,
    follow_single graph done pending followed sweep edge swept, ?_, ?_, ?_,
    follow_tight graph done pending followed sweep edge swept old _⟩
  · intro id member
    exact (Table.mem_keys_put _ _ _ _).mpr (.inr (swept.ranked id member))
  · intro id member
    by_cases same : id = edge.target
    · rw [after, Table.get?_put, if_pos same.symm, same]
    · rw [after, Table.get?_put, if_neg (Ne.symm same), swept.remaining id member,
        entering_other edge pending id same]
  · intro id member
    have none := swept.finished id member
    rw [entering_cons] at none
    omega
  · intro other member
    rcases List.mem_cons.mp member with rfl | earlier
    · exact old
    · exact swept.leaves other earlier
  · intro other member
    rcases List.mem_cons.mp member with rfl | earlier
    · rw [kept other.source old]
      exact target_grown sweep other _
    · rw [kept other.source (swept.leaves other earlier)]
      exact Nat.lt_of_lt_of_le (swept.grows other earlier) (grown other.target _)

end Follow

theorem follow_all (graph : Graph) (done : List String) (id : String) (old : id ∈ done)
    (edges pending followed : List Edge) (sweep : Sweep)
    (known : ∀ edge ∈ edges, edge.target ∈ graph.ids ∧ edge.source = id)
    (swept : Swept graph done (edges ++ pending) followed sweep) :
    ∃ last, edges.foldlM Sweep.follow sweep = .ok last ∧
      Swept graph done pending (edges.reverse ++ followed) last ∧ last.taken = sweep.taken := by
  induction edges generalizing followed sweep with
  | nil => exact ⟨sweep, rfl, swept, rfl⟩
  | cons edge rest ih =>
      obtain ⟨target, source⟩ := known edge List.mem_cons_self
      have leaves : edge.source ∈ done := source ▸ old
      rw [List.cons_append] at swept
      have first := follow_ok graph done _ followed sweep edge swept target
      have next := follow_swept graph done _ followed sweep edge swept target leaves
      obtain ⟨last, run, finished, taken⟩ := ih _ _
        (fun other member => known other (List.mem_cons_of_mem _ member)) next
      refine ⟨last, ?_, ?_, taken⟩
      · rw [List.foldlM_cons, first]
        exact run
      · rw [List.reverse_cons, List.append_assoc]
        exact finished

-- What holds of a sweep between two nodes.
structure Boundary (graph : Graph) (done : List String) (sweep : Sweep) : Prop where
  swept : ∃ followed, Swept graph done (pendingOf graph done) followed sweep ∧
    ∀ edge, edge ∈ followed ↔ edge ∈ graph.edges ∧ edge.source ∈ done
  distinct : done.Nodup
  known : ∀ id ∈ done, id ∈ graph.ids
  counted : sweep.taken = done.length

theorem start_boundary (graph : Graph) (distinct : graph.ids.Nodup) :
    Boundary graph [] (Sweep.start graph) := by
  have all : pendingOf graph [] = graph.edges := by
    rw [pendingOf, List.filter_eq_self]
    intro edge _
    simp
  have count : ∀ id, (graph.incoming id).length = entering graph.edges id := by
    intro id
    rw [Graph.incoming, entering, List.countP_eq_length_filter]
  refine ⟨⟨[], ?_, fun edge => by simp⟩, List.nodup_nil,
    fun id old => (nomatch old), rfl⟩
  rw [all]
  constructor
  · intro id member
    have keys := Table.keys_entries graph.ids (fun id => id) fun _ => 0
    rw [Sweep.start, Table.mem_keys_of_list, keys, List.map_id']
    exact member
  · intro id member
    rw [← count]
    exact Table.get_entry graph.ids (fun id => id) _ (by rw [List.map_id']; exact distinct) id member
  · intro id
    simp [Sweep.start, ← count]
  · exact distinct.filter _
  · intro id old
    cases old
  · intro edge member
    cases member
  · intro edge member
    cases member
  · intro id member
    left
    have zero := Table.get_entry graph.ids (fun id => id) (fun _ => 0)
      (by rw [List.map_id']; exact distinct) id member
    rw [rankOf, Sweep.start, zero, Option.getD_some]

theorem taken_swept (graph : Graph) (done : List String) (followed : List Edge) (sweep : Sweep)
    (id : String) (rest : List String) (queue : sweep.queue = id :: rest)
    (swept : Swept graph done (pendingOf graph done) followed sweep) :
    Swept graph (id :: done) (graph.outgoing id ++ pendingOf graph (id :: done)) followed
      { sweep with queue := rest, taken := sweep.taken + 1 } := by
  have head : id ∈ sweep.queue := by
    rw [queue]
    exact List.mem_cons_self
  obtain ⟨_, fresh, none⟩ := (swept.queued id).mp head
  have single := swept.single
  rw [queue, List.nodup_cons] at single
  have pending := fun other => entering_pending graph done id other fresh
  refine ⟨swept.ranked, ?_, ?_, single.2, ?_, ?_, swept.grows, swept.tight⟩
  · intro other member
    rw [pending other]
    exact swept.remaining other member
  · intro other
    rw [pending other]
    have queued := swept.queued other
    rw [queue, List.mem_cons] at queued
    by_cases same : other = id
    · subst same
      simp [single.1]
    · simp only [same, false_or] at queued
      simp only [List.mem_cons, same, false_or]
      exact queued
  · intro other member
    rw [pending other]
    rcases List.mem_cons.mp member with rfl | old
    · exact none
    · exact swept.finished other old
  · exact fun edge member => List.mem_cons_of_mem _ (swept.leaves edge member)

theorem take_boundary (graph : Graph) (connected : ∀ edge ∈ graph.edges, edge.target ∈ graph.ids)
    (done : List String) (sweep : Sweep) (id : String) (rest : List String)
    (queue : sweep.queue = id :: rest) (boundary : Boundary graph done sweep) :
    ∃ last, (graph.outgoing id).foldlM Sweep.follow
        { sweep with queue := rest, taken := sweep.taken + 1 } = .ok last ∧
      Boundary graph (id :: done) last := by
  obtain ⟨followed, swept, all⟩ := boundary.swept
  have head : id ∈ sweep.queue := by
    rw [queue]
    exact List.mem_cons_self
  obtain ⟨known, fresh, _⟩ := (swept.queued id).mp head
  have opened := taken_swept graph done followed sweep id rest queue swept
  obtain ⟨last, run, finished, taken⟩ := follow_all graph (id :: done) id List.mem_cons_self
    (graph.outgoing id) _ followed _ (by
      intro edge member
      obtain ⟨inside, leaves⟩ := List.mem_filter.mp member
      exact ⟨connected edge inside, of_decide_eq_true leaves⟩) opened
  refine ⟨last, run, ⟨_, finished, ?_⟩, List.nodup_cons.mpr ⟨fresh, boundary.distinct⟩, ?_, ?_⟩
  · intro edge
    rw [List.mem_append, List.mem_reverse, all edge, Graph.outgoing, List.mem_filter,
      List.mem_cons, decide_eq_true_eq]
    tauto
  · intro other member
    rcases List.mem_cons.mp member with rfl | old
    · exact known
    · exact boundary.known other old
  · rw [taken, List.length_cons, ← boundary.counted]

-- A sweep with no bound to its length: it takes the nodes of a list in turn, until none waits.
inductive Sweep.Takes (graph : Graph) : Sweep → List String → Sweep → Prop
  | stop (sweep : Sweep) (empty : sweep.queue = []) : Takes graph sweep [] sweep
  | take (sweep next last : Sweep) (id : String) (queue order : List String)
      (first : sweep.queue = id :: queue)
      (followed : (graph.outgoing id).foldlM Sweep.follow
        { sweep with queue, taken := sweep.taken + 1 } = .ok next)
      (further : Takes graph next order last) : Takes graph sweep (id :: order) last

theorem takes_ended (graph : Graph) (sweep last : Sweep) (order : List String)
    (takes : Sweep.Takes graph sweep order last) : last.queue = [] := by
  induction takes with
  | stop sweep empty => exact empty
  | take _ _ _ _ _ _ _ _ _ ih => exact ih

theorem all_taken (graph : Graph) (done : List String) (sweep : Sweep)
    (boundary : Boundary graph done sweep) (enough : graph.ids.length ≤ done.length) (id : String)
    (known : id ∈ graph.ids) : id ∈ done := by
  have subset : done.Subperm graph.ids := List.subperm_of_subset boundary.distinct boundary.known
  exact (subset.perm_of_length_le enough).mem_iff.mpr known

theorem nothing_waits (graph : Graph) (done : List String) (sweep : Sweep)
    (boundary : Boundary graph done sweep) (enough : graph.ids.length ≤ done.length) :
    sweep.queue = [] := by
  obtain ⟨_, swept, _⟩ := boundary.swept
  rw [List.eq_nil_iff_forall_not_mem]
  intro id waits
  obtain ⟨known, fresh, _⟩ := (swept.queued id).mp waits
  exact fresh (all_taken graph done sweep boundary enough id known)

theorem run_takes (graph : Graph) (connected : ∀ edge ∈ graph.edges, edge.target ∈ graph.ids)
    (fuel : Nat) (done : List String) (sweep : Sweep) (boundary : Boundary graph done sweep)
    (enough : graph.ids.length ≤ fuel + done.length) :
    ∃ order last, sweep.run graph fuel = .ok last ∧ Sweep.Takes graph sweep order last ∧
      Boundary graph (order.reverse ++ done) last := by
  induction fuel generalizing done sweep with
  | zero =>
      have empty := nothing_waits graph done sweep boundary (by omega)
      exact ⟨[], sweep, rfl, .stop sweep empty, boundary⟩
  | succ fuel ih =>
      cases queue : sweep.queue with
      | nil =>
          refine ⟨[], sweep, ?_, .stop sweep queue, boundary⟩
          simp only [Sweep.run, queue]
      | cons id rest =>
          obtain ⟨next, taken, after⟩ := take_boundary graph connected done sweep id rest queue
            boundary
          obtain ⟨order, last, run, takes, finished⟩ := ih (id :: done) next after (by
            rw [List.length_cons]
            omega)
          refine ⟨id :: order, last, ?_, .take sweep next last id rest order queue taken takes, ?_⟩
          · simp only [Sweep.run, queue, taken, bind, Except.bind]
            exact run
          · rw [List.reverse_cons, List.append_assoc]
            exact finished

theorem ranks_swept (graph : Graph) (distinct : graph.ids.Nodup)
    (connected : ∀ edge ∈ graph.edges, edge.target ∈ graph.ids) :
    ∃ order last, Sweep.Takes graph (Sweep.start graph) order last ∧
      Boundary graph order.reverse last ∧ ofGraph graph = .ok (last.settle graph) := by
  obtain ⟨order, last, run, takes, boundary⟩ := run_takes graph connected
    (2 * graph.nodes.length) [] (Sweep.start graph) (start_boundary graph distinct) (by
      rw [Graph.ids, List.length_map]
      omega)
  rw [List.append_nil] at boundary
  exact ⟨order, last, takes, boundary, by rw [ofGraph, run]; rfl⟩

theorem ranks_exist (graph : Graph) (distinct : graph.ids.Nodup)
    (connected : ∀ edge ∈ graph.edges, edge.target ∈ graph.ids) :
    ∃ ranks, ofGraph graph = .ok ranks := by
  obtain ⟨_, last, _, _, found⟩ := ranks_swept graph distinct connected
  exact ⟨last.settle graph, found⟩

def Acyclic (graph : Graph) : Prop :=
  ∀ id, ¬ TransGen (Linked graph.links) id id

-- A node that neither lies on a cycle nor behind one.
def Settled (graph : Graph) (id : String) : Prop :=
  ∀ other, Leads graph.links other id → ¬ TransGen (Linked graph.links) other other

theorem acyclic_settled (graph : Graph) (acyclic : Acyclic graph) (id : String) :
    Settled graph id :=
  fun other _ => acyclic other

theorem settled_before (graph : Graph) (first second : String) (settled : Settled graph second)
    (leads : Leads graph.links first second) : Settled graph first :=
  fun other before => settled other (before.trans leads)

section Ended

variable (graph : Graph) (connected : ∀ edge ∈ graph.edges, edge.source ∈ graph.ids)
  (done : List String) (sweep : Sweep) (boundary : Boundary graph done sweep)

include boundary

theorem done_grows (first second : String) (link : Linked graph.links first second)
    (old : second ∈ done) :
    first ∈ done ∧ rankOf sweep.ranks first < rankOf sweep.ranks second := by
  obtain ⟨followed, swept, whole⟩ := boundary.swept
  obtain ⟨edge, member, rfl, rfl⟩ := (graph.linked_iff _ _).mp link
  have source : edge.source ∈ done := by
    by_contra missing
    have none := swept.finished edge.target old
    rw [entering, List.countP_eq_zero] at none
    exact none edge (List.mem_filter.mpr ⟨member, by simpa using missing⟩) (by simp)
  exact ⟨source, swept.grows edge ((whole edge).mpr ⟨member, source⟩)⟩

theorem done_behind (first second : String) (behind : TransGen (Linked graph.links) first second)
    (old : second ∈ done) :
    first ∈ done ∧ rankOf sweep.ranks first < rankOf sweep.ranks second := by
  induction behind with
  | single link => exact done_grows graph done sweep boundary _ _ link old
  | tail _ link ih =>
      obtain ⟨middle, last⟩ := done_grows graph done sweep boundary _ _ link old
      obtain ⟨start, grown⟩ := ih middle
      exact ⟨start, grown.trans last⟩

theorem done_settled (id : String) (old : id ∈ done) : Settled graph id := by
  intro other leads circle
  have before : other ∈ done := by
    rcases Relation.reflTransGen_iff_eq_or_transGen.mp leads with same | behind
    · exact same ▸ old
    · exact (done_behind graph done sweep boundary other id behind old).1
  exact Nat.lt_irrefl _ (done_behind graph done sweep boundary other other circle before).2

variable (ended : sweep.queue = [])

include ended

theorem fresh_entered (id : String) (known : id ∈ graph.ids) (fresh : id ∉ done) :
    entering (pendingOf graph done) id ≠ 0 := by
  obtain ⟨followed, swept, _⟩ := boundary.swept
  intro none
  have queued := (swept.queued id).mpr ⟨known, fresh, none⟩
  rw [ended] at queued
  cases queued

include connected

theorem settled_done (id : String) (known : id ∈ graph.ids) (settled : Settled graph id) :
    id ∈ done := by
  -- Of the nodes left over that lead to the node, one is not entered from any of them.
  by_contra missing
  let left := graph.ids.filter fun other =>
    other ∉ done ∧ id ∈ Reach.reachable graph.links other
  have mem_left : ∀ other, other ∈ left ↔
      other ∈ graph.ids ∧ other ∉ done ∧ Leads graph.links other id := by
    intro other
    rw [List.mem_filter, decide_eq_true_eq, Reach.mem_reachable]
  have nonempty : left ≠ [] := List.ne_nil_of_mem ((mem_left id).mpr ⟨known, missing, .refl⟩)
  obtain ⟨least, member, source⟩ := Reach.some_source (Linked graph.links) left
    (fun other inside => settled other ((mem_left other).mp inside).2.2) nonempty
  obtain ⟨inside, fresh, leads⟩ := (mem_left least).mp member
  have enters := fresh_entered graph done sweep boundary ended least inside fresh
  rw [entering, Ne, List.countP_eq_zero] at enters
  push Not at enters
  obtain ⟨edge, pending, target⟩ := enters
  obtain ⟨listed, open_source⟩ := List.mem_filter.mp pending
  have link : Linked graph.links edge.source least :=
    (graph.linked_iff _ _).mpr ⟨edge, listed, rfl, of_decide_eq_true target⟩
  exact source edge.source ((mem_left edge.source).mpr
    ⟨connected edge listed, by simpa using open_source, .head link leads⟩) link

end Ended

end ProcessDiagram.Rank
