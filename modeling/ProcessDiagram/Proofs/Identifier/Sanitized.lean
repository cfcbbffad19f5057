import Mathlib.Computability.Language
import ProcessDiagram.Proofs.Identifier.History

set_option autoImplicit false

namespace ProcessDiagram.Identifier

open Computability

structure CharClass where
  ranges : List (Char × Char)
  marks : List Char

namespace CharClass

def Holds (cls : CharClass) (c : Char) : Prop :=
  (∃ range ∈ cls.ranges, range.1 ≤ c ∧ c ≤ range.2) ∨ c ∈ cls.marks

def single (cls : CharClass) : Language Char :=
  {word | ∃ c, cls.Holds c ∧ word = [c]}

theorem repeated_iff (cls : CharClass) (word : List Char) :
    word ∈ cls.single∗ ↔ ∀ c ∈ word, cls.Holds c := by
  rw [Language.mem_kstar]
  constructor
  · rintro ⟨parts, rfl, singles⟩ c member
    obtain ⟨part, inside, within⟩ := List.mem_flatten.mp member
    obtain ⟨other, held, rfl⟩ := singles part inside
    rwa [List.mem_singleton.mp within]
  · intro held
    refine ⟨word.map fun c => [c], (List.flatMap_singleton' word).symm, ?_⟩
    intro part inside
    obtain ⟨c, member, rfl⟩ := List.mem_map.mp inside
    exact ⟨c, held c member, rfl⟩

end CharClass

def firstClass : CharClass :=
  { ranges := [('A', 'Z'), ('a', 'z')], marks := ['_'] }

def nameClass : CharClass :=
  { ranges := [('A', 'Z'), ('a', 'z'), ('0', '9')], marks := ['_', '-'] }

def idPattern : Language Char :=
  firstClass.single * nameClass.single∗

structure IsId (text : String) : Prop where
  written : text.toList ∈ idPattern
  short : text.length ≤ 50

theorem first_class_iff (c : Char) : firstClass.Holds c ↔ isFirstChar c := by
  have letter : c.isAlpha = (c.isUpper || c.isLower) := rfl
  rw [isFirstChar, letter]
  simp [CharClass.Holds, firstClass, upper_iff, lower_iff]

theorem name_class_iff (c : Char) : nameClass.Holds c ↔ isNameChar c := by
  have letter : c.isAlphanum = (c.isUpper || c.isLower || c.isDigit) := rfl
  rw [isNameChar, letter]
  simp [CharClass.Holds, nameClass, upper_iff, lower_iff, digit_iff, or_assoc]

theorem pattern_iff_name (word : List Char) : word ∈ idPattern ↔ IsName word := by
  rw [idPattern, Language.mem_mul]
  constructor
  · rintro ⟨_, ⟨first, good, rfl⟩, rest, held, rfl⟩
    rw [CharClass.repeated_iff] at held
    exact ⟨(first_class_iff first).mp good, fun c member => (name_class_iff c).mp (held c member)⟩
  · intro name
    cases word with
    | nil => cases name
    | cons first rest =>
        obtain ⟨good, named⟩ := name
        refine ⟨[first], ⟨first, (first_class_iff first).mpr good, rfl⟩, rest, ?_, rfl⟩
        rw [CharClass.repeated_iff]
        exact fun c member => (name_class_iff c).mpr (named c member)

def mendFirst : List Char → List Char
  | [] => ['_']
  | first :: rest => (if isFirstChar first then first else '_') :: rest

theorem sanitize_rewrites (chars : List Char) :
    sanitizeChars chars = (mendFirst (chars.map cleanChar)).take maxLength := by
  cases chars with
  | nil => rfl
  | cons first rest =>
      rw [sanitizeChars, List.map_cons, mendFirst]
      by_cases named : isNameChar first
      · rw [cleanChar, if_pos named]
      · have refused : ¬ isFirstChar first := mt (first_named first) named
        rw [cleanChar, if_neg named, if_neg refused]
        rfl

theorem mended_length (chars : List Char) : (mendFirst chars).length = max 1 chars.length := by
  cases chars with
  | nil => rfl
  | cons first rest =>
      rw [mendFirst, List.length_cons, List.length_cons]
      omega

theorem sanitized_size (chars : List Char) :
    (sanitizeChars chars).length = min maxLength (max 1 chars.length) := by
  rw [sanitize_rewrites, List.length_take, mended_length, List.length_map]

theorem clean_kept (chars : List Char) (named : ∀ c ∈ chars, isNameChar c) :
    chars.map cleanChar = chars := by
  induction chars with
  | nil => rfl
  | cons first rest ih =>
      rw [List.forall_mem_cons] at named
      rw [List.map_cons, cleanChar, if_pos named.1, ih named.2]

theorem name_kept (word : List Char) (name : IsName word) (short : word.length ≤ maxLength) :
    sanitizeChars word = word := by
  cases word with
  | nil => cases name
  | cons first rest =>
      obtain ⟨good, named⟩ := name
      have clean : (first :: rest).map cleanChar = first :: rest :=
        clean_kept _ (List.forall_mem_cons.mpr ⟨first_named first good, named⟩)
      rw [sanitize_rewrites, clean, mendFirst, if_pos good, List.take_of_length_le short]

theorem sanitize_length (text : String) :
    (sanitize text).length = min maxLength (max 1 text.length) := by
  rw [sanitize, ← String.length_toList, String.toList_ofList, sanitized_size, String.length_toList]

theorem sanitized_is_id (text : String) : IsId (sanitize text) := by
  constructor
  · rw [pattern_iff_name, sanitize, String.toList_ofList]
    exact sanitized_name _
  · rw [sanitize_length]
    exact Nat.min_le_left _ _

theorem sanitize_fixed_iff (text : String) : sanitize text = text ↔ IsId text := by
  constructor
  · intro same
    rw [← same]
    exact sanitized_is_id text
  · rintro ⟨written, short⟩
    rw [pattern_iff_name] at written
    rw [← String.length_toList] at short
    rw [sanitize, name_kept _ written short, String.ofList_toList]

/-- Sanitizing takes every text to an id, and leaves just the ids as they are. -/
theorem sanitize_retracts :
    Set.range sanitize = {text | IsId text} ∧ ∀ text : String,
      IsId (sanitize text) ∧ (sanitize text).length = min 50 (max 1 text.length) ∧
        (sanitize text = text ↔ IsId text) ∧ sanitize (sanitize text) = sanitize text := by
  constructor
  · rw [Set.range_eq_iff]
    exact ⟨sanitized_is_id, fun text valid => ⟨text, (sanitize_fixed_iff text).mpr valid⟩⟩
  · intro text
    have valid := sanitized_is_id text
    exact ⟨valid, sanitize_length text, sanitize_fixed_iff text, (sanitize_fixed_iff _).mpr valid⟩

-- The first character is replaced and not preceded, so that no digit is left.
example : sanitize "2nd Check" = "_nd_Check" := by decide

end ProcessDiagram.Identifier
