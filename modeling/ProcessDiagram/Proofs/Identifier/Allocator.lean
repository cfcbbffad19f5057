import Mathlib.Data.List.Nodup
import Mathlib.Data.List.Perm.Subperm
import Mathlib.Data.List.Range
import ProcessDiagram.Identifier.Allocator
import ProcessDiagram.Proofs.Document.Texts
import ProcessDiagram.Proofs.Identifier.Number
import ProcessDiagram.Text.Basic

set_option autoImplicit false

namespace ProcessDiagram

namespace Identifier

def isHex (c : Char) : Bool :=
  (Text.hexDigit? c).isSome

theorem hex_iff (c : Char) :
    isHex c ↔ (48 ≤ c.toNat ∧ c.toNat ≤ 57) ∨ (97 ≤ c.toNat ∧ c.toNat ≤ 102) ∨
      (65 ≤ c.toNat ∧ c.toNat ≤ 70) := by
  have digit : ('0' ≤ c ∧ c ≤ '9') ↔ (48 ≤ c.toNat ∧ c.toNat ≤ 57) := Iff.rfl
  have lower : ('a' ≤ c ∧ c ≤ 'f') ↔ (97 ≤ c.toNat ∧ c.toNat ≤ 102) := Iff.rfl
  have upper : ('A' ≤ c ∧ c ≤ 'F') ↔ (65 ≤ c.toNat ∧ c.toNat ≤ 70) := Iff.rfl
  rw [← digit, ← lower, ← upper, isHex, Text.hexDigit?]
  by_cases isDigit : '0' ≤ c ∧ c ≤ '9'
  · simp [isDigit]
  · by_cases isLower : 'a' ≤ c ∧ c ≤ 'f'
    · simp [isDigit, isLower]
    · simp [isDigit, isLower]

theorem upper_iff (c : Char) : c.isUpper ↔ 'A' ≤ c ∧ c ≤ 'Z' :=
  decide_eq_true_iff

theorem lower_iff (c : Char) : c.isLower ↔ 'a' ≤ c ∧ c ≤ 'z' :=
  Bool.and_eq_true_iff.trans (and_congr decide_eq_true_iff decide_eq_true_iff)

theorem digit_iff (c : Char) : c.isDigit ↔ '0' ≤ c ∧ c ≤ '9' :=
  Bool.and_eq_true_iff.trans (and_congr decide_eq_true_iff decide_eq_true_iff)

theorem name_char_iff (c : Char) :
    isNameChar c ↔ (65 ≤ c.toNat ∧ c.toNat ≤ 90) ∨ (97 ≤ c.toNat ∧ c.toNat ≤ 122) ∨
      (48 ≤ c.toNat ∧ c.toNat ≤ 57) ∨ c = '_' ∨ c = '-' := by
  have upper : c.isUpper ↔ 65 ≤ c.toNat ∧ c.toNat ≤ 90 := upper_iff c
  have lower : c.isLower ↔ 97 ≤ c.toNat ∧ c.toNat ≤ 122 := lower_iff c
  have digit : c.isDigit ↔ 48 ≤ c.toNat ∧ c.toNat ≤ 57 := digit_iff c
  have letter : c.isAlphanum = (c.isUpper || c.isLower || c.isDigit) := rfl
  rw [isNameChar, letter]
  simp only [Bool.or_eq_true, decide_eq_true_eq, upper, lower, digit, or_assoc]

theorem hex_named (c : Char) (hex : isHex c) : isNameChar c := by
  rw [hex_iff] at hex
  rw [name_char_iff]
  omega

theorem digit_hex (c : Char) (digit : c.isDigit) : isHex c := by
  simp only [Char.isDigit, Bool.and_eq_true, decide_eq_true_eq, ge_iff_le] at digit
  exact (hex_iff c).mpr (.inl digit)

theorem digits_hex (number : Nat) : ∀ c ∈ Nat.toDigits 10 number, isHex c :=
  fun c member => digit_hex c (Nat.isDigit_of_mem_toDigits (by decide) (by decide) member)

theorem name_char_allowed (c : Char) (named : isNameChar c) : Xml.isForbidden c = false := by
  rw [name_char_iff] at named
  have printable : 0x20 ≤ c.toNat ∧ c.toNat < 0x80 := by
    rcases named with upper | lower | digit | rfl | rfl
    · omega
    · omega
    · omega
    · decide
    · decide
  have high : ¬ c.toNat < 0x20 := by omega
  have last : c.toNat ≠ 0xfffe ∧ c.toNat ≠ 0xffff := by omega
  simp [Xml.isForbidden, high, last]

theorem first_named (c : Char) (good : isFirstChar c) : isNameChar c := by
  rw [isNameChar]
  simp only [isFirstChar, Bool.or_eq_true] at good
  rcases good with letter | line
  · simp [Char.isAlphanum, letter]
  · simp [line]

theorem sanitized_named (chars : List Char) : ∀ c ∈ sanitizeChars chars, isNameChar c := by
  intro c member
  cases chars with
  | nil =>
      rw [List.mem_singleton.mp member]
      decide
  | cons first rest =>
      rcases List.mem_cons.mp (List.mem_of_mem_take member) with rfl | later
      · by_cases good : isFirstChar first
        · rw [if_pos good]
          exact first_named first good
        · rw [if_neg good]
          decide
      · obtain ⟨original, _, rfl⟩ := List.mem_map.mp later
        rw [cleanChar]
        split
        · assumption
        · decide

def Named (id : String) : Prop :=
  ∀ c ∈ id.toList, isNameChar c

def EndsHex (id : String) : Prop :=
  ∃ front last, id.toList = front ++ [last] ∧ isHex last

theorem named_allowed (id : String) (named : Named id) : Xml.hasForbidden id = false := by
  rw [Xml.hasForbidden, List.any_eq_false]
  intro c member
  rw [name_char_allowed c (named c member)]
  exact Bool.false_ne_true

theorem sanitize_named (text : String) : Named (sanitize text) := by
  intro c member
  rw [sanitize, String.toList_ofList] at member
  exact sanitized_named _ c member

theorem token_hex (digits : String) (hex : ∀ c ∈ digits.toList, isHex c) :
    ∀ c ∈ (tokenOf digits).toList, isHex c := by
  intro c member
  rw [tokenOf, String.toList_ofList] at member
  exact hex c (List.mem_of_mem_take member)

end Identifier

namespace Allocator

open Identifier (isHex Named EndsHex)

theorem tail_injective (front other first second : List Char)
    (plain : ∀ c ∈ first, c ≠ '_') (otherPlain : ∀ c ∈ second, c ≠ '_')
    (same : front ++ '_' :: first = other ++ '_' :: second) : first = second := by
  -- What stands behind the last underscore is read off from the right.
  have behind : ∀ front tail : List Char, (∀ c ∈ tail, c ≠ '_') →
      (front ++ '_' :: tail).reverse.takeWhile (· ≠ '_') = tail.reverse := by
    intro front tail plain
    rw [List.reverse_append, List.reverse_cons, List.append_assoc,
      List.takeWhile_append_of_pos (by simpa using plain)]
    simp
  have tails := congrArg (fun chars => chars.reverse.takeWhile (· ≠ '_')) same
  simp only [behind front first plain, behind other second otherPlain] at tails
  exact List.reverse_injective tails

theorem number_plain (number : Nat) : ∀ c ∈ Nat.toDigits 10 number, c ≠ '_' := by
  intro c member line
  have hex := Identifier.digits_hex number c member
  rw [line] at hex
  exact absurd hex (by decide)

theorem numbered_injective (base : String) (first second : Nat)
    (same : numbered base first = numbered base second) : first = second := by
  have chars := congrArg String.toList same
  rw [numbered, numbered, String.toList_ofList, String.toList_ofList, withTail, withTail] at chars
  exact digits_injective first second
    (tail_injective _ _ _ _ (number_plain first) (number_plain second) chars)

theorem next_free_numbered (used : List String) (base : String) (attempts count : Nat) :
    ∃ number, nextFree used base attempts count = (numbered base number, number) ∧
      count < number ∧ ∀ tried, count < tried → tried < number → numbered base tried ∈ used := by
  induction attempts generalizing count with
  | zero => exact ⟨count + 1, rfl, Nat.lt_succ_self count, fun _ _ _ => by omega⟩
  | succ attempts ih =>
      rw [nextFree]
      by_cases taken : numbered base (count + 1) ∈ used
      · obtain ⟨number, chosen, later, passed⟩ := ih (count + 1)
        simp only [if_pos taken]
        refine ⟨number, chosen, by omega, ?_⟩
        intro tried above below
        by_cases first : tried = count + 1
        · rw [first]
          exact taken
        · exact passed tried (by omega) below
      · simp only [if_neg taken]
        exact ⟨count + 1, rfl, Nat.lt_succ_self count, fun _ _ _ => by omega⟩

theorem next_free_or (used : List String) (base : String) (attempts count : Nat) :
    (nextFree used base attempts count).1 ∉ used ∨
      ∀ index ≤ attempts, numbered base (count + 1 + index) ∈ used := by
  induction attempts generalizing count with
  | zero =>
      by_cases free : numbered base (count + 1) ∈ used
      · right
        intro index bound
        rw [Nat.le_zero.mp bound]
        exact free
      · exact .inl free
  | succ attempts ih =>
      rw [nextFree]
      by_cases free : numbered base (count + 1) ∈ used
      · simp only [if_pos free]
        rcases ih (count + 1) with found | all
        · exact .inl found
        · right
          intro index bound
          cases index with
          | zero => exact free
          | succ index =>
              have next := all index (Nat.le_of_succ_le_succ bound)
              rwa [Nat.add_assoc (count + 1), Nat.add_comm 1] at next
      · simp only [if_neg free]
        exact .inl free

theorem next_free_fresh (used : List String) (base : String) (count : Nat) :
    (nextFree used base used.length count).1 ∉ used := by
  rcases next_free_or used base used.length count with found | all
  · exact found
  · -- More different candidates than used ids cannot all be used.
    let candidates := (List.range (used.length + 1)).map fun index =>
      numbered base (count + 1 + index)
    have different : candidates.Nodup := by
      refine List.nodup_range.map ?_
      intro first second same
      have numbers := numbered_injective base _ _ same
      omega
    have inside : candidates ⊆ used := by
      intro id member
      obtain ⟨index, bound, rfl⟩ := List.mem_map.mp member
      exact all index (Nat.le_of_lt_succ (List.mem_range.mp bound))
    have count := (List.subperm_of_subset different inside).length_le
    simp only [candidates, List.length_map, List.length_range] at count
    omega

variable (ids : Allocator) (stem : String)

theorem allocate_fresh : (ids.allocate stem).1 ∉ ids.used := by
  rw [allocate]
  by_cases taken : base ids.token stem ∈ ids.used
  · simp only [if_pos taken]
    exact next_free_fresh _ _ _
  · simp only [if_neg taken]
    exact taken

theorem allocate_used : (ids.allocate stem).2.used = (ids.allocate stem).1 :: ids.used := by
  rw [allocate]
  by_cases taken : base ids.token stem ∈ ids.used
  · simp only [if_pos taken]
  · simp only [if_neg taken]

theorem allocate_token : (ids.allocate stem).2.token = ids.token := by
  rw [allocate]
  by_cases taken : base ids.token stem ∈ ids.used
  · simp only [if_pos taken]
  · simp only [if_neg taken]

structure Issued (id : String) : Prop where
  named : Named id
  ending : EndsHex id

theorem cut_subset (limit : Int) (chars : List Char) : cut limit chars ⊆ chars := by
  rw [cut]
  split
  · exact List.take_subset _ _
  · exact List.take_subset _ _

theorem tail_issued (chars tail : List Char) (named : ∀ c ∈ chars, Identifier.isNameChar c)
    (hex : ∀ c ∈ tail, isHex c) (nonempty : tail ≠ []) :
    Issued (String.ofList (withTail chars ('_' :: tail))) := by
  constructor
  · intro c member
    rw [String.toList_ofList, withTail] at member
    rcases List.mem_append.mp member with kept | behind
    · exact named c (cut_subset _ _ kept)
    · rcases List.mem_cons.mp behind with rfl | later
      · decide
      · exact Identifier.hex_named c (hex c later)
  · let kept := cut ((Identifier.maxLength : Int) - ('_' :: tail).length) chars
    refine ⟨kept ++ '_' :: tail.dropLast, tail.getLast nonempty, ?_,
      hex _ (List.getLast_mem nonempty)⟩
    rw [String.toList_ofList, withTail, List.append_assoc, List.cons_append,
      List.dropLast_append_getLast nonempty]

theorem base_issued (hex : ∀ c ∈ ids.token.toList, isHex c) (nonempty : ids.token.toList ≠ []) :
    Issued (base ids.token stem) :=
  tail_issued _ _ (Identifier.sanitized_named _) hex nonempty

theorem allocate_issued (hex : ∀ c ∈ ids.token.toList, isHex c)
    (nonempty : ids.token.toList ≠ []) : Issued (ids.allocate stem).1 := by
  have first := base_issued ids stem hex nonempty
  rw [allocate]
  by_cases taken : base ids.token stem ∈ ids.used
  · simp only [if_pos taken]
    obtain ⟨number, chosen, _⟩ := next_free_numbered ids.used (base ids.token stem)
      ids.used.length ((Table.get? (base ids.token stem) ids.counters).getD 1)
    simp only [chosen, numbered]
    exact tail_issued _ _ first.named (Identifier.digits_hex number) Nat.toDigits_ne_nil
  · simp only [if_neg taken]
    exact first

end Allocator

end ProcessDiagram
