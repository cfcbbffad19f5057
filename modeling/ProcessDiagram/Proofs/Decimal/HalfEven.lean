import Mathlib.Algebra.Order.Field.Basic
import Mathlib.Algebra.Order.Ring.Abs
import Mathlib.Algebra.Ring.Int.Parity
import Mathlib.Tactic.FieldSimp
import Mathlib.Tactic.Linarith
import ProcessDiagram.Decimal.Rounding

set_option autoImplicit false

namespace ProcessDiagram.Decimal

def RoundsTo (value : ℚ) (whole : ℤ) : Prop :=
  |value - whole| < 1 / 2 ∨ |value - whole| = 1 / 2 ∧ Even whole

theorem rounds_whole (whole : ℤ) : RoundsTo whole whole := by
  left
  rw [sub_self, abs_zero]
  norm_num

theorem rounds_within (value : ℚ) (whole : ℤ) (rounds : RoundsTo value whole) :
    |value - whole| ≤ 1 / 2 := by
  rcases rounds with near | ⟨half, _⟩
  · exact near.le
  · exact half.le

theorem rounds_neg (value : ℚ) (whole : ℤ) (rounds : RoundsTo value whole) :
    RoundsTo (-value) (-whole) := by
  have distance : |-value - (-whole : ℤ)| = |value - whole| := by
    rw [Int.cast_neg, neg_sub_neg, abs_sub_comm]
  rw [RoundsTo, distance, even_neg]
  exact rounds

theorem rounds_closer (value other : ℚ) (whole : ℤ) (rounds : RoundsTo value whole)
    (closer : |other - whole| ≤ |value - whole|) : RoundsTo other whole := by
  rcases rounds with near | ⟨half, even⟩
  · exact .inl (closer.trans_lt near)
  · rw [half] at closer
    exact closer.lt_or_eq.imp id fun same => ⟨same, even⟩

-- Two numbers that are both near enough are neighbours half a unit away, and not both are even.
theorem rounds_unique (value : ℚ) (first second : ℤ) (one : RoundsTo value first)
    (two : RoundsTo value second) : first = second := by
  by_contra apart
  have distance : (1 : ℚ) ≤ |(first : ℚ) - second| := by
    exact_mod_cast Int.one_le_abs (sub_ne_zero.mpr apart)
  have between : |(first : ℚ) - second| ≤ |value - first| + |value - second| := by
    rw [abs_sub_comm value first]
    exact abs_sub_le _ _ _
  have oneNear := rounds_within value first one
  have twoNear := rounds_within value second two
  have oneEven : Even first := (one.resolve_left (by linarith)).2
  have twoEven : Even second := (two.resolve_left (by linarith)).2
  have beside : |first - second| ≤ 1 := by
    have bound : |(first : ℚ) - second| ≤ 1 := by linarith
    exact_mod_cast bound
  obtain ⟨half, rfl⟩ := oneEven
  obtain ⟨other, rfl⟩ := twoEven
  rw [abs_le] at beside
  omega

theorem rounds_down (whole : ℤ) (part : ℚ) (low : 0 ≤ part)
    (near : part < 1 / 2 ∨ part = 1 / 2 ∧ Even whole) : RoundsTo (whole + part) whole := by
  rw [RoundsTo, add_sub_cancel_left, abs_of_nonneg low]
  exact near

theorem rounds_up (whole : ℤ) (part : ℚ) (high : part < 1)
    (far : 1 / 2 < part ∨ part = 1 / 2 ∧ ¬ Even whole) : RoundsTo (whole + part) (whole + 1) := by
  have distance : |(whole : ℚ) + part - (whole + 1 : ℤ)| = 1 - part := by
    rw [Int.cast_add, Int.cast_one, add_sub_add_left_eq_sub, abs_sub_comm,
      abs_of_pos (sub_pos.mpr high)]
  rw [RoundsTo, distance, Int.even_add_one]
  refine far.imp (fun beyond => ?_) fun ⟨half, odd⟩ => ⟨?_, odd⟩
  · linarith
  · linarith

theorem rounds_half_even (numerator denominator : Nat) (positive : 0 < denominator) :
    RoundsTo ((numerator : ℚ) / denominator) (roundHalfEven numerator denominator) := by
  have size : (0 : ℚ) < denominator := Nat.cast_pos.mpr positive
  have value : (numerator : ℚ) / denominator = ((numerator / denominator : ℕ) : ℤ) +
      (numerator % denominator : ℕ) / (denominator : ℚ) := by
    have parts : (numerator : ℚ) =
        denominator * (numerator / denominator : ℕ) + (numerator % denominator : ℕ) := by
      exact_mod_cast (Nat.div_add_mod numerator denominator).symm
    rw [Int.cast_natCast]
    field_simp
    linarith
  have below := Nat.mod_lt numerator positive
  rw [value, roundHalfEven]
  generalize numerator / denominator = whole
  generalize numerator % denominator = rest at below
  have low : (0 : ℚ) ≤ rest / denominator := div_nonneg (Nat.cast_nonneg rest) size.le
  have high : (rest : ℚ) / denominator < 1 := by
    rw [div_lt_one size]
    exact_mod_cast below
  have evens : Even (whole : ℤ) ↔ whole % 2 = 0 := by
    rw [Int.even_coe_nat, Nat.even_iff]
  by_cases less : 2 * rest < denominator
  · rw [if_pos less]
    refine rounds_down whole _ low (.inl ?_)
    have bound : (2 * rest : ℚ) < denominator := by exact_mod_cast less
    rw [div_lt_iff₀ size]
    linarith
  · rw [if_neg less]
    by_cases more : denominator < 2 * rest
    · rw [if_pos more, Nat.cast_add, Nat.cast_one]
      refine rounds_up whole _ high (.inl ?_)
      have bound : (denominator : ℚ) < 2 * rest := by exact_mod_cast more
      rw [lt_div_iff₀ size]
      linarith
    · have half : (rest : ℚ) / denominator = 1 / 2 := by
        rw [div_eq_div_iff size.ne' two_ne_zero]
        have same : rest * 2 = 1 * denominator := by omega
        exact_mod_cast same
      rw [if_neg more]
      by_cases even : whole % 2 = 0
      · rw [if_pos even]
        exact rounds_down whole _ low (.inr ⟨half, evens.mpr even⟩)
      · rw [if_neg even, Nat.cast_add, Nat.cast_one]
        exact rounds_up whole _ high (.inr ⟨half, mt evens.mp even⟩)

end ProcessDiagram.Decimal
