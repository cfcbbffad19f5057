import Mathlib.Algebra.Order.Field.Basic
import Mathlib.Algebra.Order.Ring.Abs
import Mathlib.Algebra.Order.Ring.Rat
import Mathlib.Data.Fintype.EquivFin
import Mathlib.Data.Fintype.Lattice
import ProcessDiagram.Decimal.Binary

set_option autoImplicit false

namespace ProcessDiagram.Decimal

namespace Binary

def value? : Binary → Option ℚ
  | .finite negative mantissa exponent =>
      some ((if negative then -1 else 1) * (mantissa * 2 ^ exponent))
  | _ => none

theorem ratio_positive (mantissa : Nat) (exponent : Int) : 0 < (ratio mantissa exponent).2 := by
  rw [ratio]
  split
  · exact Nat.one_pos
  · exact Nat.two_pow_pos _

theorem ratio_zero (mantissa : Nat) (exponent : Int) :
    (ratio mantissa exponent).1 = 0 ↔ mantissa = 0 := by
  rw [ratio]
  split
  · exact Nat.mul_eq_zero.trans (or_iff_left (Nat.two_pow_pos _).ne')
  · exact Iff.rfl

theorem ratio_value (mantissa : Nat) (exponent : Int) :
    (mantissa * 2 ^ exponent : ℚ) = (ratio mantissa exponent).1 / (ratio mantissa exponent).2 := by
  rw [ratio]
  split
  · rename_i whole
    have power : (2 : ℚ) ^ exponent = 2 ^ exponent.toNat := by
      rw [← zpow_natCast, Int.toNat_of_nonneg whole]
    rw [power, Nat.cast_one, div_one, Nat.cast_mul, Nat.pow_eq, Nat.cast_pow, Nat.cast_ofNat]
  · rename_i part
    have power : (2 : ℚ) ^ exponent = (2 ^ (-exponent).toNat)⁻¹ := by
      rw [← zpow_natCast, Int.toNat_of_nonneg (by omega), zpow_neg, inv_inv]
    rw [power, Nat.pow_eq, Nat.cast_pow, Nat.cast_ofNat, div_eq_mul_inv]

section Value

variable (negative : Bool) (mantissa : Nat) (exponent : Int) (exact : ℚ)
  (value : (finite negative mantissa exponent).value? = some exact)

include value

-- A zero is not negative, whatever its sign bit says.
theorem value_negative : exact < 0 ↔ negative = true ∧ mantissa ≠ 0 := by
  obtain rfl := Option.some.inj value
  have power : (0 : ℚ) < 2 ^ exponent := zpow_pos two_pos exponent
  cases negative with
  | false => simpa using mul_nonneg (Nat.cast_nonneg mantissa) power.le
  | true => simp [power, Nat.pos_iff_ne_zero]

theorem value_magnitude : exact = (if exact < 0 then -1 else 1) * (mantissa * 2 ^ exponent) := by
  have sign := value_negative negative mantissa exponent exact value
  have parts : exact = (if negative then -1 else 1) * (mantissa * 2 ^ exponent) :=
    (Option.some.inj value).symm
  by_cases below : exact < 0
  · rw [if_pos below, parts, if_pos (sign.mp below).1]
  · rw [if_neg below, parts]
    by_cases zero : mantissa = 0
    · rw [zero, Nat.cast_zero, zero_mul, mul_zero, mul_zero]
    · rw [if_neg fun minus => below (sign.mpr ⟨minus, zero⟩)]

end Value

end Binary

-- A finite double that lies as near to a value as any.
structure Nearest (value : ℚ) (double : Float) (exact : ℚ) : Prop where
  finite : (Binary.ofFloat double).value? = some exact
  least : ∀ other otherExact, (Binary.ofFloat other).value? = some otherExact →
    |exact - value| ≤ |otherExact - value|

theorem bits_injective : Function.Injective fun double : Float => double.toBits.toFin := by
  rintro ⟨⟨bits, valid⟩⟩ ⟨⟨other, otherValid⟩⟩ same
  have equal : bits = other := UInt64.toFin_inj.mp same
  subst equal
  rfl

instance finite_doubles : Finite Float :=
  Finite.of_injective _ bits_injective

theorem some_nearest (value : ℚ) : ∃ double exact, Nearest value double exact := by
  let Double := { double : Float // ((Binary.ofFloat double).value?).isSome }
  have zero : Nonempty Double := ⟨⟨Float.ofBits 0, by decide⟩⟩
  obtain ⟨⟨double, finite⟩, least⟩ := Finite.exists_min fun double : Double =>
    |((Binary.ofFloat double.1).value?).get double.2 - value|
  refine ⟨double, _, (Option.some_get finite).symm, ?_⟩
  intro other otherExact otherFinite
  have bound := least ⟨other, otherFinite ▸ rfl⟩
  simpa only [otherFinite, Option.get_some] using bound

end ProcessDiagram.Decimal
