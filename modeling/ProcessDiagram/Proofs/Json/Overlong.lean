import Mathlib.Data.Nat.Digits.Lemmas
import ProcessDiagram.Json.Display

set_option autoImplicit false

namespace ProcessDiagram.Json

-- A value and what stands inside it, at any depth.
inductive Holds : Json → Json → Prop where
  | itself (value : Json) : Holds value value
  | item (items : List Json) (item part : Json) (member : item ∈ items) (inside : Holds item part) :
      Holds (.list items) part
  | field (fields : List (String × Json)) (key : String) (value part : Json)
      (member : (key, value) ∈ fields) (inside : Holds value part) : Holds (.record fields) part

def HoldsOverlong (value : Json) : Prop :=
  ∃ number, value.Holds (.integer number) ∧ maxDigits < (Nat.digits 10 number.natAbs).length

theorem Holds.trans (whole value part : Json) (outer : Holds whole value)
    (inner : Holds value part) : Holds whole part := by
  induction outer with
  | itself => exact inner
  | item items item _ member _ ih => exact .item items item part member (ih inner)
  | field fields key value _ member _ ih => exact .field fields key value part member (ih inner)

theorem Holds.overlong (whole value : Json) (outer : Holds whole value)
    (overlong : value.HoldsOverlong) : whole.HoldsOverlong := by
  obtain ⟨number, inner, digits⟩ := overlong
  exact ⟨number, outer.trans _ _ _ inner, digits⟩

theorem is_overlong_iff (number : Int) :
    isOverlong number = true ↔ maxDigits < (Nat.digits 10 number.natAbs).length := by
  rw [isOverlong, decide_eq_true_eq, Nat.lt_digits_length_iff (by decide), Nat.pow_eq]

theorem integer_overlong (number : Int) :
    (integer number).HoldsOverlong ↔ maxDigits < (Nat.digits 10 number.natAbs).length := by
  constructor
  · rintro ⟨_, holds, digits⟩
    cases holds
    exact digits
  · intro digits
    exact ⟨number, .itself _, digits⟩

theorem list_overlong (items : List Json) :
    (list items).HoldsOverlong ↔ ∃ item ∈ items, item.HoldsOverlong := by
  constructor
  · rintro ⟨number, holds, digits⟩
    cases holds with
    | item _ item _ member inside => exact ⟨item, member, number, inside, digits⟩
  · rintro ⟨item, member, overlong⟩
    exact (Holds.item items item item member (.itself item)).overlong _ _ overlong

theorem record_overlong (fields : List (String × Json)) :
    (record fields).HoldsOverlong ↔ ∃ entry ∈ fields, entry.2.HoldsOverlong := by
  constructor
  · rintro ⟨number, holds, digits⟩
    cases holds with
    | field _ key value _ member inside => exact ⟨(key, value), member, number, inside, digits⟩
  · rintro ⟨⟨key, value⟩, member, overlong⟩
    exact (Holds.field fields key value value member (.itself value)).overlong _ _ overlong

theorem null_not_overlong : ¬ null.HoldsOverlong := by
  rintro ⟨_, holds, _⟩
  cases holds

theorem text_not_overlong (value : String) : ¬ (text value).HoldsOverlong := by
  rintro ⟨_, holds, _⟩
  cases holds

mutual
theorem has_overlong_iff (value : Json) : value.hasOverlong = true ↔ value.HoldsOverlong := by
  cases value with
  | null => simp [hasOverlong, null_not_overlong]
  | bool value =>
      refine ⟨by simp [hasOverlong], ?_⟩
      rintro ⟨_, holds, _⟩
      cases holds
  | integer number => rw [hasOverlong, is_overlong_iff, integer_overlong]
  | decimal value =>
      refine ⟨by simp [hasOverlong], ?_⟩
      rintro ⟨_, holds, _⟩
      cases holds
  | text value => simp [hasOverlong, text_not_overlong]
  | list items => rw [hasOverlong, any_overlong_iff items, list_overlong]
  | record fields => rw [hasOverlong, any_field_overlong_iff fields, record_overlong]

theorem any_overlong_iff (items : List Json) :
    anyOverlong items = true ↔ ∃ item ∈ items, item.HoldsOverlong := by
  cases items with
  | nil => simp [anyOverlong]
  | cons item rest =>
      rw [anyOverlong, Bool.or_eq_true, has_overlong_iff item, any_overlong_iff rest,
        List.exists_mem_cons_iff]

theorem any_field_overlong_iff (fields : List (String × Json)) :
    anyFieldOverlong fields = true ↔ ∃ entry ∈ fields, entry.2.HoldsOverlong := by
  cases fields with
  | nil => simp [anyFieldOverlong]
  | cons entry rest =>
      obtain ⟨key, value⟩ := entry
      rw [anyFieldOverlong, Bool.or_eq_true, has_overlong_iff value, any_field_overlong_iff rest,
        List.exists_mem_cons_iff]
end

end ProcessDiagram.Json
