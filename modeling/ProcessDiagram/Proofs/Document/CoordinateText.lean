import Mathlib.Data.List.DropRight
import Mathlib.Tactic.Positivity
import Mathlib.Tactic.Ring
import ProcessDiagram.Document.CoordinateText
import ProcessDiagram.Proofs.Decimal.Double
import ProcessDiagram.Proofs.Decimal.HalfEven
import ProcessDiagram.Proofs.Decimal.Numeral

set_option autoImplicit false

namespace ProcessDiagram.Document

open Decimal

section Dropped

variable (dropped : Char)

theorem drop_trailing_kept_last (chars : List Char) (last : Char) (kept : last ≠ dropped) :
    dropTrailing dropped (chars ++ [last]) = chars ++ [last] :=
  List.rdropWhile_concat_neg _ _ _ (by simpa using kept)

theorem drop_trailing_dropped (chars : List Char) :
    dropTrailing dropped (chars ++ [dropped]) = dropTrailing dropped chars :=
  List.rdropWhile_concat_pos _ _ _ (decide_eq_true rfl)

theorem drop_trailing_none (chars : List Char) (kept : chars.getLast? ≠ some dropped) :
    dropTrailing dropped chars = chars := by
  refine List.rdropWhile_eq_self_iff.mpr fun nonempty last => kept ?_
  rw [List.getLast?_eq_some_getLast nonempty, of_decide_eq_true last]

theorem drop_trailing_append (front back : List Char) (last : Char) (kept : last ≠ dropped) :
    dropTrailing dropped (front ++ last :: back) = front ++ last :: dropTrailing dropped back := by
  induction back using List.reverseRecOn with
  | nil => exact drop_trailing_kept_last dropped front last kept
  | append_singleton back c ih =>
      rw [← List.cons_append, ← List.append_assoc]
      by_cases same : c = dropped
      · subst same
        rw [drop_trailing_dropped, drop_trailing_dropped, ih]
      · rw [drop_trailing_kept_last dropped _ c same, drop_trailing_kept_last dropped _ c same,
          List.append_assoc, List.cons_append]

theorem drop_trailing_last (chars : List Char) :
    (dropTrailing dropped chars).getLast? ≠ some dropped := by
  intro last
  have nonempty : dropTrailing dropped chars ≠ [] := by
    intro empty
    rw [empty] at last
    cases last
  rw [List.getLast?_eq_some_getLast nonempty] at last
  exact List.rdropWhile_last_not _ chars nonempty (decide_eq_true (Option.some.inj last))

theorem drop_trailing_split (chars : List Char) :
    ∃ count, chars = dropTrailing dropped chars ++ List.replicate count dropped := by
  refine ⟨(chars.rtakeWhile (· = dropped)).length, ?_⟩
  have same : ∀ c ∈ chars.rtakeWhile (· = dropped), c = dropped := fun c member =>
    of_decide_eq_true (List.mem_rtakeWhile_imp (p := (· = dropped)) member)
  rw [← List.eq_replicate_of_mem same]
  exact List.rdropWhile_append_rtakeWhile.symm

end Dropped

def hundredths (negative : Bool) (units : Nat) : Numeral where
  negative := negative
  whole := Nat.toDigits 10 (units / 100)
  fraction := dropTrailing '0' (paddedDigits 2 (units % 100))

theorem two_places (units : Nat) : units % 100 < 10 ^ 2 :=
  Nat.mod_lt units (by decide)

theorem hundredths_normal (negative : Bool) (units : Nat) :
    (hundredths negative units).Normal 2 := by
  have kept : (hundredths negative units).fraction <+: paddedDigits 2 (units % 100) :=
    List.rdropWhile_prefix _ _
  refine ⟨?_, Nat.toDigits_ne_nil, ?_, ?_, drop_trailing_last '0' _⟩
  · intro c member
    rcases List.mem_append.mp member with whole | fraction
    · exact digits_decimal _ c whole
    · exact padded_digits 2 _ c (kept.subset fraction)
  · intro leading
    have none_whole := digits_leading (units / 100) leading
    rw [hundredths, none_whole]
    rfl
  · rw [← padded_length 2 (units % 100) (two_places units) (by decide)]
    exact kept.length_le

theorem hundredths_value (negative : Bool) (units : Nat) :
    (hundredths negative units).value = (if negative then -1 else 1) * ((units : ℚ) / 100) := by
  obtain ⟨count, parts⟩ := drop_trailing_split '0' (paddedDigits 2 (units % 100))
  have length := padded_length 2 (units % 100) (two_places units) (by decide)
  have digits := padded_value 2 (units % 100) (two_places units) (units / 100) (by decide)
  rw [parts] at length digits
  rw [Numeral.value, hundredths]
  generalize dropTrailing '0' (paddedDigits 2 (units % 100)) = fraction at length digits
  rw [List.length_append, List.length_replicate] at length
  rw [Nat.ofDigitChars_append, Nat.ofDigitChars_replicate_zero] at digits
  have number : 10 ^ count * Nat.ofDigitChars 10 (Nat.toDigits 10 (units / 100) ++ fraction) 0 =
      units := by
    rw [Nat.ofDigitChars_append, Nat.ofDigitChars_ten_toDigits, digits]
    exact Nat.div_add_mod units 100
  have exactly : 10 ^ count *
      (Nat.ofDigitChars 10 (Nat.toDigits 10 (units / 100) ++ fraction) 0 : ℚ) = units := by
    exact_mod_cast number
  have scale : (100 : ℚ) = 10 ^ count * 10 ^ fraction.length := by
    rw [← pow_add, Nat.add_comm, length]
    norm_num
  rw [← exactly, scale, mul_div_mul_left _ _ (by positivity)]

theorem signed_append (negative : Bool) (front back : List Char) :
    signed negative (front ++ back) = signed negative front ++ back := by
  cases negative <;> rfl

theorem no_point (negative : Bool) (digits : List Char) (decimal : ∀ c ∈ digits, c.isDigit = true) :
    (signed negative digits).getLast? ≠ some '.' := by
  intro last
  have member := List.mem_of_getLast? last
  have inside : '.' ∈ digits := by
    cases negative with
    | false => exact member
    | true => exact (List.mem_cons.mp member).resolve_left (by decide)
  exact absurd (decimal '.' inside) (by decide)

theorem trimmed_hundredths (negative : Bool) (units : Nat) :
    dropTrailing '.' (dropTrailing '0' (signed negative (placesText 2 units))) =
      (hundredths negative units).chars := by
  have normal := hundredths_normal negative units
  have parts : signed negative (placesText 2 units) =
      signed negative (hundredths negative units).whole ++
        '.' :: paddedDigits 2 (units % 100) := by
    cases negative <;> rfl
  have fraction : dropTrailing '0' (paddedDigits 2 (units % 100)) =
      (hundredths negative units).fraction := rfl
  rw [parts, drop_trailing_append '0' _ _ '.' (by decide), fraction, Numeral.chars]
  by_cases empty : (hundredths negative units).fraction = []
  · -- The point is last, and goes.
    rw [empty, if_pos rfl, List.append_nil, drop_trailing_dropped]
    exact drop_trailing_none '.' _ (no_point negative _ fun c member =>
      normal.digits c (List.mem_append_left _ member))
  · rw [if_neg empty, signed_append]
    apply drop_trailing_none '.'
    rw [List.append_cons, List.getLast?_append_of_ne_nil _ empty]
    exact no_point false _ fun c member => normal.digits c (List.mem_append_right _ member)

theorem whole_hundredths (negative : Bool) (number : Nat) :
    signed negative (Nat.toDigits 10 number) = (hundredths negative (100 * number)).chars := by
  have fraction : dropTrailing '0' (paddedDigits 2 0) = [] := by decide
  rw [Numeral.chars, hundredths, Nat.mul_mod_right, Nat.mul_div_cancel_left number (by decide),
    fraction, if_pos rfl, List.append_nil]

-- A zero has no sign, whichever it had; any other value keeps its own.
theorem coordinate_magnitude (negative : Bool) (mantissa : Nat) (exponent : Int) :
    ∃ units : ℕ, RoundsTo (100 * (mantissa * 2 ^ exponent : ℚ)) units ∧
      coordinateChars (.finite negative mantissa exponent) =
        (hundredths (negative && mantissa ≠ 0) units).chars := by
  have positive := Binary.ratio_positive mantissa exponent
  have zero := Binary.ratio_zero mantissa exponent
  rw [Binary.ratio_value, coordinateChars, fixed]
  generalize Binary.ratio mantissa exponent = ratio at positive zero
  obtain ⟨numerator, denominator⟩ := ratio
  simp only [ne_eq] at positive zero ⊢
  have size : (denominator : ℚ) ≠ 0 := Nat.cast_ne_zero.mpr positive.ne'
  split
  · rename_i whole
    obtain ⟨number, rfl⟩ := Nat.dvd_of_mod_eq_zero whole
    have same : 100 * ((denominator * number : ℕ) / denominator : ℚ) = (100 * number : ℕ) := by
      rw [Nat.cast_mul, mul_div_cancel_left₀ _ size, Nat.cast_mul, Nat.cast_ofNat]
    refine ⟨100 * number, ?_, ?_⟩
    · rw [same]
      exact rounds_whole (100 * number : ℕ)
    · simp only [zero]
      rw [whole_hundredths, Nat.mul_div_cancel_left number positive]
  · rename_i part
    have some_value : mantissa ≠ 0 := by
      intro none
      rw [zero.mpr none, Nat.zero_mod] at part
      exact part rfl
    have same : 100 * (numerator / denominator : ℚ) = (numerator * 100 : ℕ) / denominator := by
      rw [Nat.cast_mul, Nat.cast_ofNat]
      ring
    refine ⟨roundHalfEven (numerator * 100) denominator, ?_, ?_⟩
    · rw [same]
      exact rounds_half_even (numerator * 100) denominator positive
    · rw [decide_eq_true some_value, Bool.and_true]
      exact trimmed_hundredths negative _

theorem coordinate_rounded (value : Float) (exact : ℚ)
    (finite : (Binary.ofFloat value).value? = some exact) :
    ∃ units : ℕ, RoundsTo (100 * exact) ((if exact < 0 then -1 else 1) * units) ∧
      (coordinateText value).toList = (hundredths (exact < 0) units).chars := by
  rw [coordinateText, String.toList_ofList]
  generalize Binary.ofFloat value = binary at finite ⊢
  cases binary with
  | infinite negative => cases finite
  | undefined => cases finite
  | finite negative mantissa exponent =>
      obtain ⟨units, rounds, chars⟩ := coordinate_magnitude negative mantissa exponent
      have magnitude := Binary.value_magnitude negative mantissa exponent exact finite
      have sign : decide (exact < 0) = (negative && mantissa ≠ 0) := by
        rw [Bool.eq_iff_iff, decide_eq_true_iff, Bool.and_eq_true, decide_eq_true_iff]
        exact Binary.value_negative negative mantissa exponent exact finite
      refine ⟨units, ?_, by rw [chars, sign]⟩
      by_cases below : exact < 0
      · rw [if_pos below, neg_one_mul] at magnitude ⊢
        rw [magnitude, mul_neg]
        exact rounds_neg _ _ rounds
      · rw [if_neg below, one_mul] at magnitude ⊢
        rw [magnitude]
        exact rounds

-- What the text of a value says, with the number of hundredths that the value is rounded to.
structure Canonical (value : Float) (exact : ℚ) (numeral : Numeral) (units : ℤ) : Prop where
  rounded : RoundsTo (100 * exact) units
  text : (coordinateText value).toList = numeral.chars
  normal : numeral.Normal 2
  denotes : numeral.value = units / 100
  sign : numeral.negative = true ↔ exact < 0
  whole : ∀ number : ℤ, exact = number → numeral.value = number

theorem some_canonical (value : Float) (exact : ℚ)
    (finite : (Binary.ofFloat value).value? = some exact) :
    ∃ numeral units, Canonical value exact numeral units := by
  obtain ⟨units, rounds, text⟩ := coordinate_rounded value exact finite
  have denotes : (hundredths (exact < 0) units).value =
      (((if exact < 0 then -1 else 1) * units : ℤ) : ℚ) / 100 := by
    rw [hundredths_value]
    by_cases negative : exact < 0
    · simp [negative, neg_div]
    · simp [negative]
  refine ⟨_, _, rounds, text, hundredths_normal _ units, denotes, decide_eq_true_iff, ?_⟩
  rintro number rfl
  have hundred : RoundsTo (100 * (number : ℚ)) (100 * number) := by
    simpa using rounds_whole (100 * number)
  rw [denotes, rounds_unique _ _ _ rounds hundred, Int.cast_mul, Int.cast_ofNat,
    mul_div_cancel_left₀ _ (by norm_num)]

theorem zero_texts (first second : Bool) :
    (hundredths first 0).chars = (hundredths second 0).chars ↔ first = second := by
  cases first <;> cases second <;> decide

theorem same_rounding (value other : Float) (exact otherExact : ℚ) (units : ℤ)
    (finite : (Binary.ofFloat value).value? = some exact)
    (otherFinite : (Binary.ofFloat other).value? = some otherExact)
    (rounds : RoundsTo (100 * exact) units) (otherRounds : RoundsTo (100 * otherExact) units) :
    coordinateText other = coordinateText value ↔
      (units = 0 → (otherExact < 0 ↔ exact < 0)) := by
  obtain ⟨number, own, text⟩ := coordinate_rounded value exact finite
  obtain ⟨otherNumber, otherOwn, otherText⟩ := coordinate_rounded other otherExact otherFinite
  have same := rounds_unique _ _ _ rounds own
  have otherSame := rounds_unique _ _ _ otherRounds otherOwn
  rw [← String.toList_inj, text, otherText]
  by_cases zero : units = 0
  · have none : number = 0 := by split at same <;> omega
    have otherNone : otherNumber = 0 := by split at otherSame <;> omega
    rw [none, otherNone, zero_texts, decide_eq_decide]
    exact ⟨fun signs _ => signs, fun signs => signs zero⟩
  · refine ⟨fun _ none => absurd none zero, fun _ => ?_⟩
    have agree : otherNumber = number ∧ (otherExact < 0 ↔ exact < 0) := by
      by_cases below : exact < 0 <;> by_cases otherBelow : otherExact < 0
      all_goals simp only [below, otherBelow, if_true, if_false, iff_self, and_true, iff_false,
        false_iff, not_true, and_false] at same otherSame ⊢
      all_goals omega
    rw [agree.1, decide_eq_decide.mpr agree.2]

theorem nearest_rounding (value other : Float) (exact otherExact : ℚ) (units : ℤ)
    (finite : (Binary.ofFloat value).value? = some exact) (rounds : RoundsTo (100 * exact) units)
    (nearest : Nearest (units / 100) other otherExact) :
    RoundsTo (100 * otherExact) units ∧ (units = 0 → otherExact = 0) := by
  constructor
  · apply rounds_closer _ _ units rounds
    have scaled : ∀ number : ℚ, |100 * number - units| = 100 * |number - units / 100| := by
      intro number
      have parts : 100 * number - units = 100 * (number - units / 100) := by ring
      rw [parts, abs_mul, abs_of_pos (by norm_num)]
    rw [scaled, scaled]
    exact mul_le_mul_of_nonneg_left (nearest.least value exact finite) (by norm_num)
  · rintro rfl
    have zero : (Binary.ofFloat (Float.ofBits 0)).value? = some 0 := by
      rw [show Binary.ofFloat (Float.ofBits 0) = .finite false 0 (-1074) by decide]
      simp [Binary.value?]
    simpa using nearest.least _ 0 zero

/-- The text of a coordinate is the normal form of its value rounded to hundredths, but for a negative
value that is rounded to zero, which keeps its sign. -/
theorem coordinate_canonical_unless_negligible (value : Float) (exact : ℚ)
    (finite : (Binary.ofFloat value).value? = some exact) :
    ∃ numeral units, Canonical value exact numeral units ∧
      (∀ other otherExact, (Binary.ofFloat other).value? = some otherExact →
        RoundsTo (100 * otherExact) units →
        (coordinateText other = coordinateText value ↔
          (units = 0 → (otherExact < 0 ↔ exact < 0)))) ∧
      (∃ other otherExact, Nearest numeral.value other otherExact) ∧
      ∀ other otherExact, Nearest numeral.value other otherExact →
        (coordinateText other = coordinateText value ↔ ¬ (exact < 0 ∧ units = 0)) := by
  obtain ⟨numeral, units, canonical⟩ := some_canonical value exact finite
  refine ⟨numeral, units, canonical, ?_, some_nearest _, ?_⟩
  · intro other otherExact otherFinite otherRounds
    exact same_rounding value other exact otherExact units finite otherFinite canonical.rounded
      otherRounds
  · intro other otherExact nearest
    have again := nearest.finite
    rw [canonical.denotes] at nearest
    obtain ⟨otherRounds, zero⟩ := nearest_rounding value other exact otherExact units finite
      canonical.rounded nearest
    rw [same_rounding value other exact otherExact units finite again canonical.rounded otherRounds]
    constructor
    · rintro signs ⟨below, none⟩
      exact absurd ((signs none).mpr below) (zero none).not_lt
    · intro whole none
      rw [zero none]
      exact iff_of_false (lt_irrefl 0) fun below => whole ⟨below, none⟩

theorem negligible_coordinate_keeps_sign :
    (Binary.ofFloat (-0.001)).value? = some (-4611686018427388 * 2 ^ (-62 : ℤ)) ∧
      coordinateText (-0.001) = "-0" ∧
      ∃ other otherExact, Nearest 0 other otherExact ∧ coordinateText other ≠ "-0" := by
  have finite : (Binary.ofFloat (-0.001)).value? = some (-4611686018427388 * 2 ^ (-62 : ℤ)) := by
    rw [show Binary.ofFloat (-0.001) = .finite true 4611686018427388 (-62) by decide +kernel]
    simp [Binary.value?]
  have text : coordinateText (-0.001) = "-0" := by decide +kernel
  obtain ⟨numeral, units, canonical, _, ⟨other, otherExact, nearest⟩, settled⟩ :=
    coordinate_canonical_unless_negligible (-0.001) _ finite
  have none : units = 0 := rounds_unique _ _ _ canonical.rounded (.inl (by norm_num))
  have zero : numeral.value = 0 := by rw [canonical.denotes, none, Int.cast_zero, zero_div]
  refine ⟨finite, text, other, otherExact, zero ▸ nearest, ?_⟩
  rw [← text]
  exact fun same => (settled other otherExact nearest).mp same ⟨by norm_num, none⟩

end ProcessDiagram.Document
