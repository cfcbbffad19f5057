import Mathlib.Algebra.Order.Field.Basic
import Mathlib.Data.List.Basic
import Mathlib.Data.Rat.Cast.Defs
import ProcessDiagram.Decimal.Rounding

set_option autoImplicit false

namespace ProcessDiagram.Decimal

structure Numeral where
  negative : Bool
  whole : List Char
  fraction : List Char
deriving DecidableEq, Repr

namespace Numeral

-- The point stands only where digits follow it.
def chars (numeral : Numeral) : List Char :=
  signed numeral.negative
    (numeral.whole ++ if numeral.fraction = [] then [] else '.' :: numeral.fraction)

def value (numeral : Numeral) : ℚ :=
  (if numeral.negative then -1 else 1) *
    (Nat.ofDigitChars 10 (numeral.whole ++ numeral.fraction) 0 / 10 ^ numeral.fraction.length)

structure Normal (places : Nat) (numeral : Numeral) : Prop where
  digits : ∀ c ∈ numeral.whole ++ numeral.fraction, c.isDigit = true
  nonempty : numeral.whole ≠ []
  leading : numeral.whole.head? = some '0' → numeral.whole = ['0']
  short : numeral.fraction.length ≤ places
  trailing : numeral.fraction.getLast? ≠ some '0'

end Numeral

theorem digits_decimal (number : Nat) : ∀ c ∈ Nat.toDigits 10 number, c.isDigit = true :=
  fun _ member => Nat.isDigit_of_mem_toDigits (by decide) (by decide) member

theorem digits_leading (number : Nat) (leading : (Nat.toDigits 10 number).head? = some '0') :
    number = 0 := by
  induction number using Nat.strongRecOn with
  | ind number ih =>
      rw [Nat.toDigits_eq_if (by decide)] at leading
      split at leading
      · exact Nat.digitChar_eq_zero.mp (Option.some.inj leading)
      · rw [List.head?_append_of_ne_nil _ Nat.toDigits_ne_nil] at leading
        have front := ih (number / 10) (by omega) leading
        omega

section Padded

variable (width number : Nat) (fits : number < 10 ^ width)

include fits

theorem padded_length (some_place : 0 < width) : (paddedDigits width number).length = width := by
  have short := (Nat.length_toDigits_le_iff (by decide) some_place).mpr fits
  rw [paddedDigits, List.length_append, List.length_replicate]
  omega

theorem padded_value (init : Nat) (some_place : 0 < width) :
    Nat.ofDigitChars 10 (paddedDigits width number) init = 10 ^ width * init + number := by
  rw [Nat.ofDigitChars_eq_ofDigitChars_zero, padded_length width number fits some_place, paddedDigits,
    Nat.ofDigitChars_append, Nat.ofDigitChars_replicate_zero, Nat.mul_zero,
    Nat.ofDigitChars_ten_toDigits]

end Padded

theorem padded_digits (width number : Nat) : ∀ c ∈ paddedDigits width number, c.isDigit = true := by
  intro c member
  rcases List.mem_append.mp member with zero | digit
  · rw [List.eq_of_mem_replicate zero]
    decide
  · exact digits_decimal number c digit

end ProcessDiagram.Decimal
