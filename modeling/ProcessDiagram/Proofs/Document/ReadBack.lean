import ProcessDiagram.Proofs.Document.Contents
import ProcessDiagram.Proofs.Document.Tree

set_option autoImplicit false

namespace ProcessDiagram.Document

open Xml (QualifiedName ExpandedName)

def readBack (depth : Option Nat) (element : Element) : ReadElement :=
  Xml.restored scope depth element

theorem values_read (depth : Option Nat) (name : QualifiedName) (keys : List String)
    (attributes : List (QualifiedName × String)) (children : List Element)
    (known : isTag name keys) (names : attributes.map Prod.fst = keys.map (⟨"", ·⟩)) :
    values? (scope.expanded name) keys (readBack depth (.element name attributes children)) =
      some (attributes.map Prod.snd) := by
  have unqualified : ∀ pair ∈ attributes, Xml.isUnqualified pair.1 := by
    simp only [isTag, Bool.and_eq_true, List.all_eq_true] at known
    intro pair member
    have named : pair.1 ∈ keys.map (⟨"", ·⟩) := names ▸ List.mem_map_of_mem member
    obtain ⟨key, inside, same⟩ := List.mem_map.mp named
    rw [← same]
    exact known.1.2 key inside
  have read : (Xml.plainAttributes attributes).map Prod.fst = keys.map (⟨"", ·⟩) := by
    have locals := congrArg (List.map fun name : QualifiedName => name.localName) names
    rw [Xml.Reading.plain_attributes_undeclared attributes unqualified, List.map_map]
    rw [List.map_map, List.map_map] at locals
    have expanded := congrArg (List.map fun key => (⟨"", key⟩ : ExpandedName)) locals
    rw [List.map_map, List.map_map] at expanded
    exact expanded
  have values : (Xml.plainAttributes attributes).map Prod.snd = attributes.map Prod.snd := by
    rw [Xml.Reading.plain_attributes_undeclared attributes unqualified, List.map_map]
    rfl
  rw [readBack, Xml.restored, values?, if_pos ⟨rfl, read⟩, values]

theorem values_other (name : ExpandedName) (keys others : List String) (element : ReadElement)
    (values : List String) (known : values? name keys element = some values)
    (apart : keys.length ≠ others.length) : values? name others element = none := by
  cases element with
  | text value => rfl
  | comment value => rfl
  | instruction target data => rfl
  | element found attributes children =>
      rw [values?] at known ⊢
      by_cases same : found = name ∧ attributes.map Prod.fst = keys.map (⟨"", ·⟩)
      · rw [if_neg]
        rintro ⟨_, more⟩
        have lengths := congrArg List.length (same.2.symm.trans more)
        simp only [List.length_map] at lengths
        exact apart lengths
      · rw [if_neg same] at known
        cases known

theorem named_no_text (element : Element) (named : element.name?.isSome) :
    element.isText = false := by
  cases element with
  | element name attributes children => rfl
  | text value => cases named
  | comment value => rfl
  | instruction target data => rfl

theorem named_back (depth : Option Nat) (element : Element) (named : element.name?.isSome) :
    (readBack depth element).name?.isSome := by
  cases element with
  | element name attributes children => rfl
  | text value => cases named
  | comment value => cases named
  | instruction target data => cases named

theorem elements_read (depth : Option Nat) (name : QualifiedName)
    (attributes : List (QualifiedName × String)) (children : List Element)
    (solid : ∀ child ∈ children, child.name?.isSome) :
    elements? (readBack depth (.element name attributes children)) =
      some (children.map (readBack (depth.map (· + 1)))) := by
  have noText : ∀ child ∈ children, child.isText = false :=
    fun child member => named_no_text child (solid child member)
  have spacing : (Xml.resolvedNodes scope (Xml.spaced depth children)).all isSpacing := by
    rw [List.all_eq_true]
    intro node member
    rcases Xml.mem_spaced scope depth children noText node member with ⟨line, rfl⟩ | inside
    · rw [isSpacing, String.toList_ofList, List.all_eq_true]
      intro c inLine
      rcases Xml.line_start_blank line c inLine with rfl | rfl <;> rfl
    · obtain ⟨child, known, other, rfl⟩ := inside
      have kept := named_back other child (solid child known)
      cases shape : Xml.restored scope other child with
      | element name attributes children => rfl
      | text value => simp [readBack, shape, Xml.Node.name?] at kept
      | comment value => simp [readBack, shape, Xml.Node.name?] at kept
      | instruction target data => simp [readBack, shape, Xml.Node.name?] at kept
  rw [elements?, readBack, Xml.restored]
  simp only [Xml.Node.children, spacing, if_true]
  rw [Xml.filter_spaced scope depth children noText _ fun _ => rfl, List.filter_eq_self.mpr]
  · rfl
  · intro node member
    obtain ⟨child, known, rfl⟩ := List.mem_map.mp member
    exact named_back _ child (solid child known)

theorem text_read (depth : Option Nat) (name : QualifiedName) (value : String) :
    textIn? (scope.expanded name) (readBack depth (.element name [] [.text value])) =
      some value := by
  have values : values? (scope.expanded name) []
      (readBack depth (.element name [] [.text value])) = some [] := by
    rw [readBack, Xml.restored, values?, if_pos ⟨rfl, rfl⟩]
    rfl
  rw [textIn?, values, readBack, Xml.restored, Xml.Node.children, Xml.restored_text]
  by_cases empty : value = ""
  · rw [if_pos empty, empty]
  · rw [if_neg empty]

theorem split_where (chosen : ReadElement → Bool) (first rest : List ReadElement)
    (all : ∀ element ∈ first, chosen element) (other : ∀ element ∈ rest, chosen element = false) :
    (first ++ rest).takeWhile chosen = first ∧ (first ++ rest).dropWhile chosen = rest := by
  rw [List.takeWhile_append_of_pos all, List.dropWhile_append_of_pos all]
  cases rest with
  | nil => simp
  | cons element more => simp [other element List.mem_cons_self]

theorem leading_split (name : ExpandedName) (first rest : List ReadElement)
    (named : ∀ element ∈ first, isNamed name element)
    (other : ∀ element ∈ rest, isNamed name element = false) :
    leading name (first ++ rest) = (first, rest) := by
  obtain ⟨taken, dropped⟩ := split_where (isNamed name) first rest named other
  rw [leading, taken, dropped]

theorem named_read (depth : Option Nat) (name : QualifiedName) (other : ExpandedName)
    (attributes : List (QualifiedName × String)) (children : List Element) :
    isNamed other (readBack depth (.element name attributes children)) =
      decide (scope.expanded name = other) := by
  rw [isNamed, readBack, Xml.restored, Xml.Node.name?]
  simp

end ProcessDiagram.Document
