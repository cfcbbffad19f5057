import Mathlib.Algebra.Ring.Int.Defs
import Mathlib.Data.Option.NAry
import ProcessDiagram.Proofs.Each
import ProcessDiagram.Proofs.Table
import ProcessDiagram.Telemetry.Measure

set_option autoImplicit false

namespace ProcessDiagram

def Amount.whole? : Amount → Option Int
  | .whole value => some value
  | .real _ => none

theorem Amount.sum_whole (first second sum : Amount) (added : first.add second = .ok sum) :
    sum.whole? = Option.map₂ (· + ·) first.whole? second.whole? := by
  have real : ∀ one other : Amount, (one.whole? = none ∨ other.whole? = none) →
      one.add other = .ok sum → sum.whole? = none := by
    intro one other unmeasured added
    rw [Amount.add] at added
    · split at added
      · cases added
      · cases added
        rfl
    · rintro first second rfl rfl
      simp [whole?] at unmeasured
  cases first with
  | real first => exact real _ _ (.inl rfl) added
  | whole first =>
      cases second with
      | real second => exact real _ _ (.inr rfl) added
      | whole second =>
          cases added
          rfl

namespace MeasurePoint

-- What was added in all, as long as only whole amounts were.
def total? (point : MeasurePoint) : Option Int :=
  Option.map₂ (· + ·) point.collected.whole? point.recent.whole?

theorem added_once (point after : MeasurePoint) (amount : Amount)
    (added : point.add amount = .ok after) :
    after.count = point.count + 1 ∧
      ∀ whole, amount.whole? = some whole → after.total? = point.total?.map (· + whole) := by
  obtain ⟨recent, sum, rest⟩ := Each.bind_ok _ _ _ added
  cases rest
  refine ⟨rfl, ?_⟩
  intro whole known
  have together : recent.whole? = point.recent.whole?.map (· + whole) := by
    rw [Amount.sum_whole _ _ _ sum, known, Option.map₂_coe_right]
  rw [total?, together, total?]
  exact (Option.map_map₂_distrib_right fun first second => Int.add_assoc first second whole).symm

theorem collected_same (point after : MeasurePoint) (collected : point.collect = .ok after) :
    after.count = point.count ∧ after.total? = point.total? := by
  obtain ⟨all, sum, rest⟩ := Each.bind_ok _ _ _ collected
  cases rest
  refine ⟨rfl, ?_⟩
  calc Option.map₂ (· + ·) all.whole? (some 0)
      = all.whole?.map (· + 0) := Option.map₂_coe_right _ _ _
    _ = all.whole? := by simp
    _ = Option.map₂ (· + ·) point.recent.whole? point.collected.whole? :=
        Amount.sum_whole _ _ _ sum
    _ = point.total? := Option.map₂_comm fun recent collected => Int.add_comm recent collected

theorem whole_succeeds (point : MeasurePoint) (known : point.total?.isSome = true) :
    (∀ whole, ∃ after, point.add (.whole whole) = .ok after ∧ after.total?.isSome = true) ∧
      ∃ after, point.collect = .ok after ∧ after.total?.isSome = true := by
  obtain ⟨attributes, count, collected, recent⟩ := point
  cases collected with
  | real collected => cases known
  | whole collected =>
      cases recent with
      | real recent => cases known
      | whole recent => exact ⟨fun whole => ⟨_, rfl, rfl⟩, _, rfl, rfl⟩

end MeasurePoint

namespace Measure

variable (key : List (String × String))

-- A point that was never added to counts nothing.
def pointAt (measure : Measure) : MeasurePoint :=
  (Table.get? key measure).getD { attributes := [] }

inductive Use where
  | add (attributes : Attributes) (amount : Amount)
  | collect

def use (measure : Measure) : Use → Except Amount.Failure Measure
  | .add attributes amount => measure.add attributes amount
  | .collect => measure.collect

def useAll (measure : Measure) (uses : List Use) : Except Amount.Failure Measure :=
  uses.foldlM use measure

def Use.adds : Use → Bool
  | .add attributes _ => attributes.identity = key
  | .collect => false

-- The whole amount that is added for the attributes; anything else adds none.
def Use.whole : Use → Int
  | .add attributes amount => if attributes.identity = key then amount.whole?.getD 0 else 0
  | .collect => 0

def Use.IsWhole : Use → Prop
  | .add _ amount => amount.whole?.isSome = true
  | .collect => True

theorem collected_at (measure after : Measure) (collected : measure.collect = .ok after) :
    (after.pointAt key).count = (measure.pointAt key).count ∧
      (after.pointAt key).total? = (measure.pointAt key).total? := by
  have each := (Each.all_ok _ _ _).mp collected
  clear collected
  rw [pointAt, pointAt]
  induction each with
  | nil => exact ⟨rfl, rfl⟩
  | @cons entry other rest others one _ ih =>
      obtain ⟨point, same, done⟩ := Each.bind_ok _ _ _ one
      cases done
      obtain ⟨name, before⟩ := entry
      rw [Table.get?, Table.get?]
      by_cases here : name = key
      · rw [if_pos here, if_pos here]
        exact MeasurePoint.collected_same _ _ same
      · rw [if_neg here, if_neg here]
        exact ih

theorem added_at (measure after : Measure) (attributes : Attributes) (amount : Amount)
    (added : measure.add attributes amount = .ok after) :
    if attributes.identity = key then
      (after.pointAt key).count = (measure.pointAt key).count + 1 ∧
        ∀ whole, amount.whole? = some whole →
          (after.pointAt key).total? = (measure.pointAt key).total?.map (· + whole)
    else after.pointAt key = measure.pointAt key := by
  obtain ⟨point, once, rest⟩ := Each.bind_ok _ _ _ added
  cases rest
  rw [pointAt, Table.get?_put]
  by_cases here : attributes.identity = key
  · rw [if_pos here, if_pos here]
    have fresh : ((Table.get? attributes.identity measure).getD { attributes }).count =
        (measure.pointAt key).count ∧
        ((Table.get? attributes.identity measure).getD { attributes }).total? =
          (measure.pointAt key).total? := by
      rw [pointAt, here]
      cases Table.get? key measure with
      | none => exact ⟨rfl, rfl⟩
      | some known => exact ⟨rfl, rfl⟩
    rw [← fresh.1, ← fresh.2]
    exact MeasurePoint.added_once _ point amount once
  · rw [if_neg here, if_neg here]
    rfl

theorem used_at (measure after : Measure) (use : Use) (whole : use.IsWhole)
    (used : measure.use use = .ok after) :
    (after.pointAt key).count = (measure.pointAt key).count + (if use.adds key then 1 else 0) ∧
      (after.pointAt key).total? = (measure.pointAt key).total?.map (· + use.whole key) := by
  cases use with
  | collect =>
      obtain ⟨count, total⟩ := collected_at key measure after used
      rw [count, total]
      exact ⟨rfl, by simp [Use.whole]⟩
  | add attributes amount =>
      have point := added_at key measure after attributes amount used
      obtain ⟨value, known⟩ := Option.isSome_iff_exists.mp whole
      by_cases here : attributes.identity = key
      · rw [if_pos here] at point
        simp only [Use.adds, Use.whole, here, known, decide_true, if_true, Option.getD_some]
        exact ⟨point.1, point.2 value known⟩
      · rw [if_neg here] at point
        simp [Use.adds, Use.whole, here, point]

def Whole (measure : Measure) : Prop :=
  ∀ entry ∈ measure, entry.2.total?.isSome = true

theorem whole_used (measure : Measure) (whole : measure.Whole) (use : Use) (isWhole : use.IsWhole) :
    ∃ after, measure.use use = .ok after ∧ after.Whole := by
  cases use with
  | collect =>
      have each : ∀ entry ∈ measure, ∃ after : List (String × String) × MeasurePoint,
          (do return (entry.1, ← entry.2.collect) : Except Amount.Failure _) = .ok after ∧
            after.2.total?.isSome = true := by
        intro entry member
        obtain ⟨point, same, known⟩ := (entry.2.whole_succeeds (whole entry member)).2
        exact ⟨(entry.1, point), by rw [same]; rfl, known⟩
      obtain ⟨after, collected, known⟩ := Each.all_found _ measure _ each
      refine ⟨after, collected, ?_⟩
      clear collected
      induction known with
      | nil => exact fun _ member => nomatch member
      | cons one _ ih =>
          obtain ⟨_, others⟩ := List.forall_mem_cons.mp each
          obtain ⟨_, kept⟩ := List.forall_mem_cons.mp whole
          exact List.forall_mem_cons.mpr ⟨one, ih kept others⟩
  | add attributes amount =>
      cases amount with
      | real value => cases isWhole
      | whole value =>
          have before : ((Table.get? attributes.identity measure).getD { attributes }).total?.isSome =
              true := by
            cases found : Table.get? attributes.identity measure with
            | none => rfl
            | some point => exact whole _ (Table.get_mem _ point measure found)
          obtain ⟨point, once, known⟩ := (MeasurePoint.whole_succeeds _ before).1 value
          refine ⟨Table.put attributes.identity point measure, ?_, ?_⟩
          · rw [use, add, once]
            rfl
          · intro entry member
            rcases Table.mem_put _ _ _ _ member with rfl | old
            · exact known
            · exact whole entry old

theorem whole_run_from (uses : List Use) (isWhole : ∀ use ∈ uses, use.IsWhole) (measure : Measure)
    (whole : measure.Whole) :
    ∃ after, measure.useAll uses = .ok after ∧
      ∀ key, (after.pointAt key).count = (measure.pointAt key).count + uses.countP (Use.adds key) ∧
        (after.pointAt key).total? =
          (measure.pointAt key).total?.map (· + (uses.map (Use.whole key)).sum) := by
  induction uses generalizing measure with
  | nil => exact ⟨measure, rfl, fun key => ⟨rfl, by simp⟩⟩
  | cons use rest ih =>
      have here := isWhole use List.mem_cons_self
      obtain ⟨between, used, kept⟩ := whole_used measure whole use here
      obtain ⟨after, others, told⟩ :=
        ih (fun other member => isWhole other (List.mem_cons_of_mem _ member)) between kept
      refine ⟨after, ?_, ?_⟩
      · rw [useAll, List.foldlM_cons, used]
        exact others
      · intro key
        obtain ⟨count, total⟩ := used_at key measure between use here used
        obtain ⟨counts, totals⟩ := told key
        rw [counts, count, totals, total, List.countP_cons, List.map_cons, List.sum_cons]
        refine ⟨by omega, ?_⟩
        cases (measure.pointAt key).total? with
        | none => rfl
        | some known => exact congrArg some (Int.add_assoc _ _ _)

/-- However collections come between, a measure of whole amounts takes every use, counts each amount
once for its attributes, and holds their sum. -/
theorem whole_run (uses : List Use) (isWhole : ∀ use ∈ uses, use.IsWhole) :
    ∃ after, useAll [] uses = .ok after ∧
      ∀ key, (pointAt key after).count = uses.countP (Use.adds key) ∧
        (pointAt key after).total? = some (uses.map (Use.whole key)).sum := by
  obtain ⟨after, used, told⟩ := whole_run_from uses isWhole [] fun _ member => nomatch member
  refine ⟨after, used, ?_⟩
  intro key
  obtain ⟨count, total⟩ := told key
  exact ⟨count.trans (Nat.zero_add _), total.trans (congrArg some (Int.zero_add _))⟩

end Measure

end ProcessDiagram
