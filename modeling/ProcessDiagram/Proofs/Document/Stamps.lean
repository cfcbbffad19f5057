import ProcessDiagram.Proofs.Document.Parts

set_option autoImplicit false

namespace ProcessDiagram.Document

open Xml (hasForbidden)

theorem raw_text_checked (value : String) (allowed : hasForbidden value = false) :
    checkRaw (.text value) = .ok () := by
  rw [checkRaw, allowed]
  rfl

def metadata (options : Options) : List Stamp :=
  [options.targetNamespace, options.exporter, options.exporterVersion]

-- The failure of the first of some stamps that cannot be written.
inductive Refused : List Stamp → Failure → Prop where
  | forbidden (value : String) (rest : List Stamp) (held : hasForbidden value = true) :
      Refused (.text value :: rest) .forbiddenCharacter
  | noText (kind : NoText) (rest : List Stamp) : Refused (.other kind :: rest) (.noText kind)
  | later (value : String) (rest : List Stamp) (failure : Failure)
      (allowed : hasForbidden value = false) (behind : Refused rest failure) :
      Refused (.text value :: rest) failure

theorem refused_iff (stamps : List Stamp) (failure : Failure) :
    stamps.forM checkRaw = .error failure ↔ Refused stamps failure := by
  induction stamps with
  | nil =>
      constructor
      · intro run
        cases run
      · intro refused
        cases refused
  | cons stamp rest ih =>
      change (checkRaw stamp >>= fun _ => rest.forM checkRaw) = _ ↔ _
      cases stamp with
      | other kind =>
          constructor
          · intro run
            cases run
            exact .noText kind rest
          · intro refused
            cases refused
            rfl
      | text value =>
          cases held : hasForbidden value with
          | true =>
              rw [checkRaw, if_pos held]
              constructor
              · intro run
                cases run
                exact .forbidden value rest held
              · intro refused
                cases refused with
                | forbidden => rfl
                | later _ _ _ allowed => exact absurd held (ne_true_of_eq_false allowed)
          | false =>
              rw [raw_text_checked value held]
              constructor
              · intro run
                exact .later value rest failure held (ih.mp run)
              · intro refused
                cases refused with
                | forbidden _ _ found => exact absurd found (ne_true_of_eq_false held)
                | later _ _ _ _ behind => exact ih.mpr behind

theorem refused_front (front rest : List Stamp) (failure : Failure)
    (checked : ∀ stamp ∈ rest, checkRaw stamp = .ok ()) :
    Refused (front ++ rest) failure ↔ Refused front failure := by
  induction front with
  | nil =>
      rw [List.nil_append, ← refused_iff, ← refused_iff, (Each.all_checked checkRaw rest).mpr checked]
      rfl
  | cons stamp front ih =>
      constructor
      · intro refused
        cases refused with
        | forbidden value _ held => exact .forbidden value front held
        | noText kind => exact .noText kind front
        | later value _ _ allowed behind => exact .later value front failure allowed (ih.mp behind)
      · intro refused
        cases refused with
        | forbidden value _ held => exact .forbidden value _ held
        | noText kind => exact .noText kind _
        | later value _ _ allowed behind => exact .later value _ failure allowed (ih.mpr behind)

theorem refused_tail (value : String) (rest : List Stamp) (failure : Failure)
    (checked : checkRaw (.text value) = .ok ()) :
    Refused (.text value :: rest) failure ↔ Refused rest failure := by
  constructor
  · intro refused
    have allowed := raw_text_allowed value checked
    cases refused with
    | forbidden _ _ held => exact absurd held (ne_true_of_eq_false allowed)
    | later _ _ _ _ behind => exact behind
  · exact .later value rest failure (raw_text_allowed value checked)

def Writable (stamp : Stamp) : Prop :=
  ∃ value, stamp = .text value ∧ hasForbidden value = false

theorem raw_checked_iff (stamp : Stamp) : checkRaw stamp = .ok () ↔ Writable stamp := by
  cases stamp with
  | text value =>
      constructor
      · intro checked
        exact ⟨value, rfl, raw_text_allowed value checked⟩
      · rintro ⟨_, same, allowed⟩
        cases same
        exact raw_text_checked value allowed
  | other kind =>
      constructor
      · intro checked
        cases checked
      · rintro ⟨_, same, _⟩
        cases same

def Worded (stamps : List Stamp) : Prop :=
  ∀ stamp ∈ stamps, Writable stamp

theorem raw_all_checked (stamps : List Stamp) :
    stamps.forM checkRaw = .ok () ↔ Worded stamps := by
  simp only [Worded, Each.all_checked, raw_checked_iff]

theorem refused_exists (stamps : List Stamp) :
    (∃ failure, Refused stamps failure) ↔ ¬ Worded stamps := by
  have all := raw_all_checked stamps
  simp only [← refused_iff]
  cases run : stamps.forM checkRaw with
  | error failure =>
      rw [← all, run]
      exact ⟨fun _ => nofun, fun _ => ⟨failure, rfl⟩⟩
  | ok done =>
      constructor
      · rintro ⟨_, failed⟩
        cases failed
      · intro bad
        exact absurd (all.mp run) bad

theorem refused_kind (stamps : List Stamp) (failure : Failure) (refused : Refused stamps failure) :
    failure = .forbiddenCharacter ∨ ∃ kind, failure = .noText kind := by
  induction refused with
  | forbidden => exact .inl rfl
  | noText kind => exact .inr ⟨kind, rfl⟩
  | later _ _ _ _ _ ih => exact ih

theorem worded_texts (values : List String) :
    Worded (values.map .text) ↔ ∀ value ∈ values, hasForbidden value = false := by
  simp [Worded, Writable]

theorem refused_texts_iff (values : List String) (failure : Failure) :
    Refused (values.map .text) failure ↔
      failure = .forbiddenCharacter ∧ ∃ value ∈ values, hasForbidden value = true := by
  induction values with
  | nil =>
      constructor
      · intro refused
        cases refused
      · rintro ⟨_, _, member, _⟩
        cases member
  | cons value rest ih =>
      cases held : hasForbidden value with
      | true =>
          constructor
          · intro refused
            cases refused with
            | forbidden => exact ⟨rfl, value, List.mem_cons_self, held⟩
            | later _ _ _ allowed => exact absurd held (ne_true_of_eq_false allowed)
          · rintro ⟨rfl, _⟩
            exact .forbidden value _ held
      | false =>
          rw [List.map_cons, refused_tail value _ _ (raw_text_checked value held), ih]
          simp [held]

end ProcessDiagram.Document
