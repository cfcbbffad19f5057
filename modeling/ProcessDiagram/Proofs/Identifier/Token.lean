import ProcessDiagram.Proofs.Identifier.History

set_option autoImplicit false

namespace ProcessDiagram.Allocator

open Identifier (isHex maxLength tokenLength)

structure IsToken (token : String) : Prop where
  hex : ∀ c ∈ token.toList, isHex c
  length : token.length = tokenLength

theorem IsToken.nonempty (token : String) (valid : IsToken token) : token.toList ≠ [] := by
  intro none
  have size := valid.length
  rw [← String.length_toList, none] at size
  cases size

def stemPart (stem : String) : String :=
  String.ofList ((Identifier.sanitizeChars stem.toList).take (maxLength - tokenLength - 1))

def tagged (token stem : String) : String :=
  stemPart stem ++ "_" ++ token

def numberedWhole (token stem : String) (number : Nat) : String :=
  tagged token stem ++ "_" ++ toString number

inductive Carries (token stem : String) (limit : Nat) : String → Prop where
  | plain : Carries token stem limit (tagged token stem)
  | numbered (number : Nat) (above : 2 ≤ number) (below : number ≤ limit)
      (fits : (numberedWhole token stem number).length ≤ maxLength) :
      Carries token stem limit (numberedWhole token stem number)

inductive Cut (token stem : String) (limit : Nat) : String → Prop where
  | numbered (number : Nat) (above : 2 ≤ number) (below : number ≤ limit)
      (exceeds : maxLength < (numberedWhole token stem number).length) :
      Cut token stem limit (numbered (tagged token stem) number)

theorem tagged_chars (token stem : String) :
    (tagged token stem).toList = (stemPart stem).toList ++ '_' :: token.toList := by
  rw [tagged, String.toList_append, String.toList_append, List.append_assoc]
  rfl

theorem numbered_chars (token stem : String) (number : Nat) :
    (numberedWhole token stem number).toList =
      (tagged token stem).toList ++ '_' :: Nat.toDigits 10 number := by
  have digits : (toString number).toList = Nat.toDigits 10 number := by
    rw [Nat.toString_eq_ofList_toDigits, String.toList_ofList]
  rw [numberedWhole, String.toList_append, String.toList_append, digits, List.append_assoc]
  rfl

theorem token_plain (token : String) (valid : IsToken token) : ∀ c ∈ token.toList, c ≠ '_' := by
  intro c member line
  have hex := valid.hex c member
  rw [line] at hex
  exact absurd hex (by decide)

theorem base_tagged (token stem : String) (valid : IsToken token) :
    base token stem = tagged token stem := by
  have tail : ('_' :: token.toList).length = tokenLength + 1 := by
    rw [List.length_cons, String.length_toList, valid.length]
  apply String.toList_injective
  rw [tagged_chars, base, String.toList_ofList, with_tail_eq _ _ (by rw [tail]; decide), tail,
    stemPart, String.toList_ofList]
  rfl

theorem numbered_whole (token stem : String) (number : Nat)
    (fits : (numberedWhole token stem number).length ≤ maxLength) :
    numbered (tagged token stem) number = numberedWhole token stem number := by
  rw [← String.length_toList, numbered_chars, List.length_append] at fits
  apply String.toList_injective
  rw [numbered_chars, numbered, String.toList_ofList, with_tail_eq _ _ (by omega),
    List.take_of_length_le (by omega)]

theorem candidate_carries (token stem : String) (valid : IsToken token) (index limit : Nat)
    (bound : index ≤ limit) :
    Carries token stem (limit + 1) (candidate token stem index) ∨
      Cut token stem (limit + 1) (candidate token stem index) := by
  cases index with
  | zero =>
      rw [candidate, base_tagged token stem valid]
      exact .inl .plain
  | succ index =>
      rw [candidate, base_tagged token stem valid]
      by_cases fits : (numberedWhole token stem (index + 2)).length ≤ maxLength
      · rw [numbered_whole token stem _ fits]
        exact .inl (.numbered (index + 2) (by omega) (by omega) fits)
      · exact .inr (.numbered (index + 2) (by omega) (by omega) (Nat.lt_of_not_le fits))

theorem tagged_token (token other stem another : String) (valid : IsToken token)
    (validOther : IsToken other) (same : tagged token stem = tagged other another) :
    token = other := by
  have chars := congrArg String.toList same
  rw [tagged_chars, tagged_chars] at chars
  exact String.toList_injective
    (tail_injective _ _ _ _ (token_plain token valid) (token_plain other validOther) chars)

theorem tagged_unnumbered (token other stem another : String) (valid : IsToken token) (number : Nat)
    (small : number < 10 ^ 7) : tagged token stem ≠ numberedWhole other another number := by
  intro same
  have chars := congrArg String.toList same
  rw [tagged_chars, numbered_chars] at chars
  have tails := tail_injective _ _ _ _ (token_plain token valid) (number_plain number) chars
  have digits : (Nat.toDigits 10 number).length ≤ 7 :=
    (Nat.length_toDigits_le_iff (by decide) (by decide)).mpr small
  rw [← tails, String.length_toList, valid.length, tokenLength] at digits
  omega

theorem numbered_token (token other stem another : String) (valid : IsToken token)
    (validOther : IsToken other) (first second : Nat)
    (same : numberedWhole token stem first = numberedWhole other another second) :
    token = other := by
  have chars := congrArg String.toList same
  rw [numbered_chars, numbered_chars] at chars
  have tails := tail_injective _ _ _ _ (number_plain first) (number_plain second) chars
  rw [tails] at chars
  exact tagged_token token other stem another valid validOther
    (String.toList_injective (List.append_cancel_right chars))

theorem carried_token (token other stem another id : String) (valid : IsToken token)
    (validOther : IsToken other) (limit otherLimit : Nat) (small : limit < 10 ^ 7)
    (smallOther : otherLimit < 10 ^ 7) (first : Carries token stem limit id)
    (second : Carries other another otherLimit id) : token = other := by
  generalize same : id = shared at second
  cases first with
  | plain =>
      cases second with
      | plain => exact tagged_token _ _ _ _ valid validOther same
      | numbered number _ below _ =>
          exact absurd same (tagged_unnumbered _ _ _ _ valid number (by omega))
  | numbered number _ below _ =>
      cases second with
      | plain => exact absurd same.symm (tagged_unnumbered _ _ _ _ validOther number (by omega))
      | numbered another _ _ _ => exact numbered_token _ _ _ _ valid validOther _ _ same

/-- An id carries the whole token unless a number has taken the place of characters of the token. Ids of
different tokens are different unless one of them is cut so. -/
theorem tokens_whole_unless_cut (token other : String) (valid : IsToken token)
    (validOther : IsToken other) (operations others : List Operation) :
    (∀ stem id, (.allocate stem, .id id) ∈ history { token } operations →
      Carries token stem (operations.length + 1) id ∨ Cut token stem (operations.length + 1) id) ∧
    (token ≠ other → operations.length + 1 < 10 ^ 7 → others.length + 1 < 10 ^ 7 →
      ∀ stem another id, (.allocate stem, .id id) ∈ history { token } operations →
        (.allocate another, .id id) ∈ history { token := other } others →
          Cut token stem (operations.length + 1) id ∨ Cut other another (others.length + 1) id) := by
  have each : ∀ token, IsToken token → ∀ operations stem id,
      (Operation.allocate stem, Answer.id id) ∈ history { token } operations →
        Carries token stem (operations.length + 1) id ∨
          Cut token stem (operations.length + 1) id := by
    intro token valid operations stem id member
    obtain ⟨index, bound, rfl⟩ := history_candidate token operations stem id member
    exact candidate_carries token stem valid index operations.length bound
  refine ⟨each token valid operations, ?_⟩
  intro apart small smallOther stem another id member memberOther
  rcases each token valid operations stem id member with first | cut
  · rcases each other validOther others another id memberOther with second | cut
    · exact absurd (carried_token token other stem another id valid validOther _ _ small smallOther
        first second) apart
    · exact .inr cut
  · exact .inl cut

/-- As long as a stem may be before it is cut itself. -/
def longStem : String :=
  String.ofList (List.replicate 41 'p')

theorem long_stem_tokens_cut :
    IsToken "abcdef12" ∧ IsToken "abcdef34" ∧ "abcdef12" ≠ "abcdef34" ∧
      (.allocate longStem, .id (longStem ++ "_abcdef_2")) ∈
        history { token := "abcdef12" } [.allocate longStem, .allocate longStem] ∧
      (.allocate longStem, .id (longStem ++ "_abcdef_2")) ∈
        history { token := "abcdef34" } [.allocate longStem, .allocate longStem] ∧
      (Cut "abcdef12" longStem 3 (longStem ++ "_abcdef_2") ∨
        Cut "abcdef34" longStem 3 (longStem ++ "_abcdef_2")) := by
  have first : IsToken "abcdef12" := ⟨List.all_eq_true.mp (by decide), by decide⟩
  have second : IsToken "abcdef34" := ⟨List.all_eq_true.mp (by decide), by decide⟩
  have apart : "abcdef12" ≠ "abcdef34" := by decide
  have run : history { token := "abcdef12" } [.allocate longStem, .allocate longStem] =
      [(.allocate longStem, .id (longStem ++ "_abcdef12")),
        (.allocate longStem, .id (longStem ++ "_abcdef_2"))] := by rfl
  have other : history { token := "abcdef34" } [.allocate longStem, .allocate longStem] =
      [(.allocate longStem, .id (longStem ++ "_abcdef34")),
        (.allocate longStem, .id (longStem ++ "_abcdef_2"))] := by rfl
  have member : (.allocate longStem, .id (longStem ++ "_abcdef_2")) ∈
      history { token := "abcdef12" } [.allocate longStem, .allocate longStem] := by
    rw [run]
    exact List.mem_cons_of_mem _ List.mem_cons_self
  have memberOther : (.allocate longStem, .id (longStem ++ "_abcdef_2")) ∈
      history { token := "abcdef34" } [.allocate longStem, .allocate longStem] := by
    rw [other]
    exact List.mem_cons_of_mem _ List.mem_cons_self
  obtain ⟨_, clash⟩ := tokens_whole_unless_cut "abcdef12" "abcdef34" first second
    [.allocate longStem, .allocate longStem] [.allocate longStem, .allocate longStem]
  exact ⟨first, second, apart, member, memberOther,
    clash apart (by decide) (by decide) longStem longStem _ member memberOther⟩

end ProcessDiagram.Allocator
