import Mathlib.Logic.Function.Basic
import ProcessDiagram.Xml.Entity

set_option autoImplicit false

namespace ProcessDiagram.Xml

-- What a character is replaced by on its own; the first row for it counts.
def substitute : List (Char × List Char) → Char → List Char
  | [], c => [c]
  | (target, entity) :: rest, c => if c = target then entity else substitute rest c

theorem substitute_free (table : List (Char × List Char)) (c : Char)
    (free : c ∉ table.map Prod.fst) : substitute table c = [c] := by
  induction table with
  | nil => rfl
  | cons row rest ih =>
      rw [List.map_cons, List.mem_cons, not_or] at free
      rw [substitute, if_neg free.1, ih free.2]

theorem substitute_known (table : List (Char × List Char)) (c : Char)
    (known : c ∈ table.map Prod.fst) : ∃ row ∈ table, row.1 = c ∧ substitute table c = row.2 := by
  induction table with
  | nil => cases known
  | cons row rest ih =>
      by_cases same : c = row.1
      · exact ⟨row, List.mem_cons_self, same.symm, by rw [substitute, if_pos same]⟩
      · obtain ⟨later, member, target, written⟩ :=
          ih ((List.mem_cons.mp known).resolve_left same)
        exact ⟨later, List.mem_cons_of_mem _ member, target, by rw [substitute, if_neg same, written]⟩

theorem substitute_all_free (table : List (Char × List Char)) (chars : List Char)
    (free : ∀ c ∈ chars, c ∉ table.map Prod.fst) : chars.flatMap (substitute table) = chars := by
  induction chars with
  | nil => rfl
  | cons c rest ih =>
      rw [List.forall_mem_cons] at free
      rw [List.flatMap_cons, substitute_free table c free.1, ih free.2, List.singleton_append]

-- The order of the rows matters: what a row writes holds nothing that a later row replaces.
theorem replace_all (table : List (Char × List Char)) (chars : List Char)
    (ordered : table.Pairwise fun earlier later => later.1 ∉ earlier.2) :
    table.foldl (fun chars row => replaceChar row.1 row.2 chars) chars =
      chars.flatMap (substitute table) := by
  induction ordered generalizing chars with
  | nil => exact (List.flatMap_singleton' chars).symm
  | @cons row rest apart _ ih =>
      have kept : row.2.flatMap (substitute rest) = row.2 := by
        apply substitute_all_free
        intro c written target
        obtain ⟨later, member, rfl⟩ := List.mem_map.mp target
        exact apart later member written
      rw [List.foldl_cons, ih, replaceChar, List.flatMap_assoc]
      congr 1
      funext c
      rw [substitute]
      split
      · exact kept
      · exact List.flatMap_singleton _ _

theorem escape_chars (chars : List Char) :
    escapeChars chars = chars.flatMap (substitute reserved) :=
  replace_all reserved chars (by decide)

-- The row whose entity a text begins with.
def entityAt? (chars : List Char) : Option (Char × List Char) :=
  reserved.find? fun row => row.2.isPrefixOf chars

-- One pass from the left; the number tells how many characters of a replaced entity are left.
def restoreFrom : Nat → List Char → List Char
  | _, [] => []
  | left + 1, _ :: rest => restoreFrom left rest
  | 0, first :: rest =>
      match entityAt? (first :: rest) with
      | some (c, entity) => c :: restoreFrom (entity.length - 1) rest
      | none => first :: restoreFrom 0 rest

def restore (text : String) : String :=
  String.ofList (restoreFrom 0 text.toList)

theorem entity_marks : ∀ row ∈ reserved, row.2.head? = some '&' ∧ 2 ≤ row.2.length := by decide

theorem no_entity (first : Char) (rest : List Char) (plain : first ≠ '&') :
    entityAt? (first :: rest) = none := by
  rw [entityAt?, List.find?_eq_none]
  intro row member begins
  obtain ⟨tail, same⟩ := List.isPrefixOf_iff_prefix.mp begins
  have head : (row.2 ++ tail).head? = some '&' := by
    rw [List.head?_append, (entity_marks row member).1]
    rfl
  rw [same] at head
  exact plain (Option.some.inj head)

theorem restore_substitute (c : Char) (rest : List Char) :
    restoreFrom 0 (substitute reserved c ++ rest) = c :: restoreFrom 0 rest := by
  by_cases known : c ∈ reserved.map Prod.fst
  · simp only [reserved, List.map_cons, List.map_nil, List.mem_cons, List.not_mem_nil,
      or_false] at known
    rcases known with rfl | rfl | rfl | rfl | rfl <;> rfl
  · have plain : c ≠ '&' := by
      rintro rfl
      exact known (by decide)
    rw [substitute_free reserved c known, List.singleton_append, restoreFrom, no_entity c rest plain]

theorem restore_escaped (chars : List Char) : restoreFrom 0 (escapeChars chars) = chars := by
  rw [escape_chars]
  induction chars with
  | nil => rfl
  | cons c rest ih => rw [List.flatMap_cons, restore_substitute, ih]

theorem restore_escape (text : String) : restore (escape text) = text := by
  rw [restore, escape, String.toList_ofList, restore_escaped, String.ofList_toList]

theorem escape_injective : Function.Injective escape :=
  Function.LeftInverse.injective restore_escape

theorem escaped_length (chars : List Char) :
    chars.length + chars.countP (· ∈ reserved.map Prod.fst) ≤ (escapeChars chars).length := by
  rw [escape_chars]
  induction chars with
  | nil => exact Nat.le_refl 0
  | cons c rest ih =>
      rw [List.flatMap_cons, List.length_append, List.length_cons, List.countP_cons]
      by_cases known : c ∈ reserved.map Prod.fst
      · obtain ⟨row, member, _, written⟩ := substitute_known reserved c known
        have long := (entity_marks row member).2
        rw [written]
        simp only [known, decide_true, if_true]
        omega
      · rw [substitute_free reserved c known]
        simp only [known, decide_false, Bool.false_eq_true, if_false, List.length_singleton]
        omega

theorem escape_fixed_iff (text : String) :
    escape text = text ↔ ∀ c ∈ text.toList, c ∉ reserved.map Prod.fst := by
  constructor
  · intro same
    have chars := congrArg String.toList same
    rw [escape, String.toList_ofList] at chars
    have length := escaped_length text.toList
    rw [chars] at length
    have none_reserved : text.toList.countP (· ∈ reserved.map Prod.fst) = 0 := by omega
    intro c member known
    exact List.countP_eq_zero.mp none_reserved c member (decide_eq_true known)
  · intro free
    rw [escape, escape_chars, substitute_all_free reserved _ free, String.ofList_toList]

/-- Escaping is a simultaneous substitution, undone by one pass over the entities. -/
theorem escape_substitutes :
    Function.Injective escape ∧ ∀ text : String,
      (escape text).toList = text.toList.flatMap (substitute reserved) ∧
        restore (escape text) = text ∧
        (escape (escape text) = escape text ↔
          ∀ c ∈ text.toList, c ∉ reserved.map Prod.fst) := by
  refine ⟨escape_injective, fun text => ⟨?_, restore_escape text, ?_⟩⟩
  · rw [escape, String.toList_ofList, escape_chars]
  · rw [escape_injective.eq_iff, escape_fixed_iff]

-- Text that looks escaped already is escaped like any other.
example : escape "&lt;" = "&amp;lt;" ∧ restore "&amp;lt;" = "&lt;" := by decide

end ProcessDiagram.Xml
