import ProcessDiagram.Document.Writer
import ProcessDiagram.Proofs.Decimal.Numeral

set_option autoImplicit false

namespace ProcessDiagram.Document

open Xml (isForbidden hasForbidden filterText)

theorem forbidden_of_list (chars : List Char) (allowed : ∀ c ∈ chars, isForbidden c = false) :
    hasForbidden (String.ofList chars) = false := by
  rw [hasForbidden, String.toList_ofList, List.any_eq_false]
  intro c member
  simp [allowed c member]

theorem forbidden_append (first second : String) :
    hasForbidden (first ++ second) = (hasForbidden first || hasForbidden second) := by
  rw [hasForbidden, String.toList_append, List.any_append]
  rfl

theorem forbidden_filtered (text : String) : hasForbidden (filterText text) = false := by
  apply forbidden_of_list
  intro c member
  simpa using (List.mem_filter.mp member).2

theorem digit_allowed (c : Char) (digit : c.isDigit) : isForbidden c = false := by
  have low : 48 ≤ c.toNat ∧ c.toNat ≤ 57 := by
    simp only [Char.isDigit, ge_iff_le, Bool.and_eq_true, decide_eq_true_eq,
      UInt32.le_iff_toNat_le] at digit
    exact digit
  rw [isForbidden]
  have first : ¬ c.toNat < 0x20 := by omega
  have second : ¬ c.toNat = 0xfffe := by omega
  have third : ¬ c.toNat = 0xffff := by omega
  simp [first, second, third]

theorem digits_allowed (number : Nat) : ∀ c ∈ Nat.toDigits 10 number, isForbidden c = false :=
  fun c member => digit_allowed c (Decimal.digits_decimal number c member)

theorem forbidden_number (number : Nat) : hasForbidden (toString number) = false := by
  rw [Nat.toString_eq_ofList_toDigits]
  exact forbidden_of_list _ (digits_allowed number)

theorem flow_id_allowed (token : String) (index : Nat) (allowed : hasForbidden token = false) :
    hasForbidden (flowId token index) = false := by
  have front : hasForbidden "Flow_" = false := by decide
  have middle : hasForbidden "_" = false := by decide
  rw [flowId]
  simp only [forbidden_append, front, middle, allowed, forbidden_number, Bool.or_false]

theorem signed_allowed (negative : Bool) (chars : List Char)
    (allowed : ∀ c ∈ chars, isForbidden c = false) :
    ∀ c ∈ Decimal.signed negative chars, isForbidden c = false := by
  cases negative with
  | false => exact allowed
  | true =>
      intro c member
      rcases List.mem_cons.mp member with rfl | later
      · decide
      · exact allowed c later

theorem padded_allowed (width number : Nat) :
    ∀ c ∈ Decimal.paddedDigits width number, isForbidden c = false :=
  fun c member => digit_allowed c (Decimal.padded_digits width number c member)

theorem places_allowed (places units : Nat) :
    ∀ c ∈ Decimal.placesText places units, isForbidden c = false := by
  intro c member
  rcases List.mem_append.mp member with whole | part
  · exact digits_allowed _ c whole
  · split at part
    · cases part
    · rcases List.mem_cons.mp part with rfl | digit
      · decide
      · exact padded_allowed _ _ c digit

theorem fixed_allowed (places : Nat) (value : Decimal.Binary) :
    ∀ c ∈ Decimal.fixed places value, isForbidden c = false := by
  cases value with
  | finite negative mantissa exponent => exact signed_allowed _ _ (places_allowed _ _)
  | infinite negative => exact signed_allowed _ _ (by simp [isForbidden])
  | undefined =>
      rw [Decimal.fixed]
      simp [isForbidden]

theorem drop_trailing_kept (dropped : Char) (chars : List Char) :
    ∀ c ∈ dropTrailing dropped chars, c ∈ chars := by
  intro c member
  have kept := (List.dropWhile_suffix _).subset (List.mem_reverse.mp member)
  exact List.mem_reverse.mp kept

theorem coordinate_chars_allowed (value : Decimal.Binary) :
    ∀ c ∈ coordinateChars value, isForbidden c = false := by
  cases value with
  | infinite negative =>
      rw [coordinateChars]
      · exact fixed_allowed 2 _
      · simp
  | undefined =>
      rw [coordinateChars]
      · exact fixed_allowed 2 _
      · simp
  | finite negative mantissa exponent =>
      simp only [coordinateChars]
      split
      · exact signed_allowed _ _ (digits_allowed _)
      · intro c member
        exact fixed_allowed 2 _ c (drop_trailing_kept _ _ c (drop_trailing_kept _ _ c member))

theorem coordinate_allowed (value : Float) : hasForbidden (coordinateText value) = false :=
  forbidden_of_list _ (coordinate_chars_allowed _)

end ProcessDiagram.Document
