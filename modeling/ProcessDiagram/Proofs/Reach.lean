import Mathlib.Data.Fintype.EquivFin
import Mathlib.Data.Fintype.Sets
import Mathlib.Logic.Relation
import Mathlib.Order.WellFounded
import ProcessDiagram.Graph.Path

set_option autoImplicit false

namespace ProcessDiagram.Reach

open Relation (TransGen)

variable {Place : Type}

def Linked (links : List (Place × Place)) (first second : Place) : Prop :=
  (first, second) ∈ links

abbrev Leads (links : List (Place × Place)) : Place → Place → Prop :=
  Relation.ReflTransGen (Linked links)

theorem some_source [DecidableEq Place] (link : Place → Place → Prop) (places : List Place)
    (acyclic : ∀ place ∈ places, ¬ TransGen link place place) (nonempty : places ≠ []) :
    ∃ place ∈ places, ∀ other ∈ places, ¬ link other place := by
  have finite : Finite { place // place ∈ places } := Finite.of_fintype _
  have before : WellFounded fun first second : { place // place ∈ places } =>
      TransGen link first.1 second.1 := by
    have transitive : IsTrans { place // place ∈ places } fun first second =>
        TransGen link first.1 second.1 := ⟨fun _ _ _ => TransGen.trans⟩
    have irreflexive : Std.Irrefl fun first second : { place // place ∈ places } =>
        TransGen link first.1 second.1 := ⟨fun place => acyclic place.1 place.2⟩
    exact Finite.wellFounded_of_trans_of_irrefl _
  obtain ⟨place, member⟩ := List.exists_mem_of_ne_nil places nonempty
  obtain ⟨least, _, minimal⟩ := before.has_min Set.univ ⟨⟨place, member⟩, trivial⟩
  exact ⟨least.1, least.2, fun other inside step =>
    minimal ⟨other, inside⟩ trivial (TransGen.single step)⟩

theorem some_sink [DecidableEq Place] (link : Place → Place → Prop) (places : List Place)
    (acyclic : ∀ place ∈ places, ¬ TransGen link place place) (nonempty : places ≠ []) :
    ∃ place ∈ places, ∀ other ∈ places, ¬ link place other :=
  some_source (Function.swap link) places
    (fun place member circle => acyclic place member (Relation.transGen_swap.mp circle)) nonempty

variable [DecidableEq Place]

theorem mem_next (links : List (Place × Place)) (first second : Place) :
    second ∈ next links first ↔ Linked links first second := by
  simp [next, Linked]

-- The links out of places that were not seen: they bound what may still be added.
def unfollowed (links : List (Place × Place)) (seen : List Place) : Nat :=
  links.countP fun link => link.1 ∉ seen

theorem unfollowed_seen (links : List (Place × Place)) (seen : List Place) (place : Place)
    (fresh : place ∉ seen) :
    unfollowed links (place :: seen) + (next links place).length = unfollowed links seen := by
  induction links with
  | nil => rfl
  | cons link rest ih =>
      simp only [unfollowed, next, List.length_map, List.mem_cons] at ih ⊢
      rw [List.countP_cons, List.countP_cons, List.filter_cons]
      by_cases same : link.1 = place
      · simp only [same, decide_true, if_true, List.length_cons, true_or,
          not_true_eq_false, decide_false, fresh, not_false_eq_true]
        simp only [Bool.false_eq_true, if_false]
        omega
      · by_cases known : link.1 ∈ seen
        · simpa [same, known] using ih
        · simp only [same, known, decide_false, or_self, not_false_eq_true,
            decide_true, if_true, Bool.false_eq_true, if_false]
          omega

structure Search (Place : Type) where
  waiting : List Place
  seen : List Place

namespace Search

-- One step of a search. Any of the waiting places may be the next one, so a law of the steps holds
-- in whatever order the places wait.
inductive Step (links : List (Place × Place)) : Search Place → Search Place → Prop
  | known (waiting rest seen : List Place) (place : Place) (taken : waiting.Perm (place :: rest))
      (old : place ∈ seen) : Step links ⟨waiting, seen⟩ ⟨rest, seen⟩
  | fresh (waiting rest seen : List Place) (place : Place) (taken : waiting.Perm (place :: rest))
      (new : place ∉ seen) :
      Step links ⟨waiting, seen⟩ ⟨next links place ++ rest, place :: seen⟩

def Covers (search : Search Place) (place : Place) : Prop :=
  place ∈ search.seen ∨ place ∈ search.waiting

-- What is left to do: each place that waits, and each link that may still put a place to wait.
def load (links : List (Place × Place)) (search : Search Place) : Nat :=
  search.waiting.length + unfollowed links search.seen

-- What holds of a search from a start all along.
structure Underway (links : List (Place × Place)) (start : Place) (search : Search Place) :
    Prop where
  begun : search.Covers start
  closed : ∀ first ∈ search.seen, ∀ second, Linked links first second → search.Covers second
  led : ∀ place, search.Covers place → Leads links start place

variable (links : List (Place × Place)) (before after : Search Place)

theorem step_load (step : Step links before after) : after.load links < before.load links := by
  cases step with
  | known waiting rest seen place taken old =>
      simp only [load, taken.length_eq, List.length_cons]
      omega
  | fresh waiting rest seen place taken new =>
      -- The links out of the place are paid for by those that were not followed before.
      have followed := unfollowed_seen links seen place new
      simp only [load, taken.length_eq, List.length_cons, List.length_append]
      omega

theorem steps_end : WellFounded fun after before => Step links before after :=
  Subrelation.wf (step_load links _ _) (measure (load links)).wf

theorem step_covers (step : Step links before after) (place : Place)
    (covered : before.Covers place) : after.Covers place := by
  cases step with
  | known waiting rest seen first taken old =>
      rcases covered with earlier | waits
      · exact .inl earlier
      · rcases List.mem_cons.mp (taken.mem_iff.mp waits) with rfl | later
        · exact .inl old
        · exact .inr later
  | fresh waiting rest seen first taken new =>
      rcases covered with earlier | waits
      · exact .inl (List.mem_cons_of_mem _ earlier)
      · rcases List.mem_cons.mp (taken.mem_iff.mp waits) with rfl | later
        · exact .inl List.mem_cons_self
        · exact .inr (List.mem_append_right _ later)

theorem step_underway (start : Place) (step : Step links before after)
    (underway : Underway links start before) : Underway links start after := by
  have kept := step_covers links before after step
  refine ⟨kept start underway.begun, ?_, ?_⟩
  · cases step with
    | known waiting rest seen place taken old =>
        exact fun first member second link => kept second (underway.closed first member second link)
    | fresh waiting rest seen place taken new =>
        intro first member second link
        rcases List.mem_cons.mp member with rfl | earlier
        · exact .inr (List.mem_append_left _ ((mem_next links _ _).mpr link))
        · exact kept second (underway.closed first earlier second link)
  · cases step with
    | known waiting rest seen place taken old =>
        rintro other (earlier | waits)
        · exact underway.led other (.inl earlier)
        · exact underway.led other (.inr (taken.mem_iff.mpr (List.mem_cons_of_mem _ waits)))
    | fresh waiting rest seen place taken new =>
        have here := underway.led place (.inr (taken.mem_iff.mpr List.mem_cons_self))
        rintro other (member | waits)
        · rcases List.mem_cons.mp member with rfl | earlier
          · exact here
          · exact underway.led other (.inl earlier)
        · rcases List.mem_append.mp waits with target | later
          · exact here.tail ((mem_next links _ _).mp target)
          · exact underway.led other (.inr (taken.mem_iff.mpr (List.mem_cons_of_mem _ later)))

theorem run_underway (start : Place) (run : Relation.ReflTransGen (Step links) before after)
    (underway : Underway links start before) : Underway links start after := by
  induction run with
  | refl => exact underway
  | tail _ step ih => exact step_underway links _ _ start step ih

omit [DecidableEq Place] in
theorem start_underway (start : Place) : Underway links start ⟨[start], []⟩ := by
  refine ⟨.inr (List.mem_singleton_self start), fun first none => (nomatch none), ?_⟩
  rintro place (none | waits)
  · cases none
  · rw [List.mem_singleton.mp waits]

theorem ended_iff (start : Place) (seen : List Place)
    (run : Relation.ReflTransGen (Step links) ⟨[start], []⟩ ⟨[], seen⟩) (place : Place) :
    place ∈ seen ↔ Leads links start place := by
  have underway := run_underway links _ _ start run (start_underway links start)
  have covered : ∀ other, Covers ⟨[], seen⟩ other → other ∈ seen :=
    fun other covers => covers.resolve_right List.not_mem_nil
  constructor
  · exact fun member => underway.led place (.inl member)
  · intro leads
    induction leads with
    | refl => exact covered start underway.begun
    | tail _ link ih => exact covered _ (underway.closed _ ih _ link)

-- What holds of a search all along when no two links lead to one place and none to the start.
structure Straight (start : Place) (search : Search Place) : Prop where
  once : (search.waiting ++ search.seen).Nodup
  entered : ∀ place, search.Covers place →
    place = start ∨ ∃ first ∈ search.seen, Linked links first place

theorem step_straight (start : Place) (single : (links.map Prod.snd).Nodup)
    (root : ∀ first, ¬ Linked links first start) (step : Step links before after)
    (straight : Straight links start before) : Straight links start after := by
  cases step with
  | known waiting rest seen place taken old =>
      have waits := taken.mem_iff.mpr List.mem_cons_self
      exact absurd rfl ((List.nodup_append.mp straight.once).2.2 place waits place old)
  | fresh waiting rest seen place taken new =>
      have once : (place :: rest ++ seen).Nodup :=
        (taken.append_right seen).nodup_iff.mp straight.once
      have apart : ∀ target, Linked links place target → target ∉ place :: rest ++ seen := by
        intro target link covered
        -- The place is the only one with a link to the target, and it was not seen.
        have before : Covers ⟨waiting, seen⟩ target := by
          rcases List.mem_append.mp covered with waits | earlier
          · exact .inr (taken.mem_iff.mpr waits)
          · exact .inl earlier
        rcases straight.entered target before with rfl | ⟨first, earlier, other⟩
        · exact root place link
        · obtain rfl : place = first :=
            congrArg Prod.fst (List.inj_on_of_nodup_map single link other rfl)
          exact new earlier
      have kept : ∀ other, Covers ⟨waiting, seen⟩ other →
          other = start ∨ ∃ first ∈ place :: seen, Linked links first other := by
        intro other covered
        obtain begun | ⟨first, earlier, link⟩ := straight.entered other covered
        · exact .inl begun
        · exact .inr ⟨first, List.mem_cons_of_mem _ earlier, link⟩
      constructor
      · have whole : (next links place ++ (place :: rest ++ seen)).Nodup := by
          refine List.nodup_append.mpr
            ⟨single.sublist (List.filter_sublist.map Prod.snd), once, ?_⟩
          intro target listed other covered same
          exact apart target ((mem_next links place target).mp listed) (same ▸ covered)
        rw [List.append_assoc]
        exact (List.perm_middle.append_left _).nodup_iff.mpr whole
      · rintro other (member | waits)
        · rcases List.mem_cons.mp member with rfl | earlier
          · exact kept other (.inr (taken.mem_iff.mpr List.mem_cons_self))
          · exact kept other (.inl earlier)
        · rcases List.mem_append.mp waits with target | later
          · exact .inr ⟨place, List.mem_cons_self, (mem_next links place other).mp target⟩
          · exact kept other (.inr (taken.mem_iff.mpr (List.mem_cons_of_mem _ later)))

omit [DecidableEq Place] in
theorem start_straight (start : Place) : Straight links start ⟨[start], []⟩ := by
  refine ⟨List.nodup_singleton start, ?_⟩
  rintro place (none | waits)
  · cases none
  · exact .inl (List.mem_singleton.mp waits)

end Search

theorem visit_runs (links : List (Place × Place)) (fuel : Nat) (waiting seen : List Place)
    (enough : Search.load links ⟨waiting, seen⟩ ≤ fuel) :
    Relation.ReflTransGen (Search.Step links) ⟨waiting, seen⟩
      ⟨[], visit links fuel waiting seen⟩ := by
  induction fuel generalizing waiting seen with
  | zero =>
      simp only [Search.load] at enough
      have empty : waiting = [] := List.eq_nil_of_length_eq_zero (by omega)
      subst empty
      exact .refl
  | succ fuel ih =>
      cases waiting with
      | nil => exact .refl
      | cons first rest =>
          by_cases known : first ∈ seen
          · have step : Search.Step links ⟨first :: rest, seen⟩ ⟨rest, seen⟩ :=
              .known _ rest seen first (.refl _) known
            rw [visit, if_pos known]
            exact .head step (ih rest seen (by
              have lighter := Search.step_load links _ _ step
              omega))
          · have step : Search.Step links ⟨first :: rest, seen⟩
                ⟨next links first ++ rest, first :: seen⟩ :=
              .fresh _ rest seen first (.refl _) known
            rw [visit, if_neg known]
            exact .head step (ih _ _ (by
              have lighter := Search.step_load links _ _ step
              omega))

theorem reachable_runs (links : List (Place × Place)) (start : Place) :
    Relation.ReflTransGen (Search.Step links) ⟨[start], []⟩ ⟨[], reachable links start⟩ := by
  apply visit_runs
  have bound : unfollowed links [] ≤ links.length := List.countP_le_length
  simp only [Search.load, List.length_singleton]
  omega

theorem mem_reachable (links : List (Place × Place)) (start place : Place) :
    place ∈ reachable links start ↔ Leads links start place :=
  Search.ended_iff links start _ (reachable_runs links start) place

end ProcessDiagram.Reach
