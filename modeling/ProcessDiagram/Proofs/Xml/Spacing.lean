import Mathlib.Data.List.Basic
import ProcessDiagram.Proofs.Xml.Resolution

set_option autoImplicit false

namespace ProcessDiagram.Xml

def lineSpace : Option Nat → List (Node QualifiedName)
  | none => []
  | some depth => [.text (String.ofList (lineStart depth))]

mutual
def indented (depth : Option Nat) : Node QualifiedName → Node QualifiedName
  | .element name attributes children =>
      let inner := if children.any Node.isText then none else depth
      .element name attributes
        (if children.isEmpty then []
        else indentedNodes (inner.map (· + 1)) children ++ lineSpace inner)
  | node => node

def indentedNodes (depth : Option Nat) : List (Node QualifiedName) → List (Node QualifiedName)
  | [] => []
  | child :: rest => lineSpace depth ++ indented depth child :: indentedNodes depth rest
end

def spaced (depth : Option Nat) (children : List (Node QualifiedName)) :
    List (Node QualifiedName) :=
  let inner := if children.any Node.isText then none else depth
  if children.isEmpty then []
  else indentedNodes (inner.map (· + 1)) children ++ lineSpace inner

theorem indented_element (depth : Option Nat) (name : QualifiedName)
    (attributes : List (QualifiedName × String)) (children : List (Node QualifiedName)) :
    indented depth (.element name attributes children) =
      .element name attributes (spaced depth children) := by
  rw [indented, spaced]

theorem line_start_blank (depth : Nat) (c : Char) (member : c ∈ lineStart depth) :
    c = '\n' ∨ c = ' ' := by
  rcases List.mem_cons.mp member with rfl | later
  · exact .inl rfl
  · exact .inr (List.eq_of_mem_replicate later)

theorem line_start_unescaped (depth : Nat) :
    (lineStart depth).flatMap escapeContentChar = lineStart depth := by
  have kept : ∀ c ∈ lineStart depth, escapeContentChar c = [c] := by
    intro c member
    rcases line_start_blank depth c member with rfl | rfl <;> rfl
  rw [List.flatMap_congr kept, List.flatMap_singleton']

theorem print_children_append (nodes more : List (Node QualifiedName)) :
    printChildren none (nodes ++ more) = printChildren none nodes ++ printChildren none more := by
  induction nodes with
  | nil => rfl
  | cons first rest ih => simp [printChildren, ih]

theorem print_line_space (depth : Option Nat) :
    printChildren none (lineSpace depth) =
      match depth with | none => [] | some depth => lineStart depth := by
  cases depth with
  | none => rfl
  | some depth => simp [lineSpace, printChildren, printNode, line_start_unescaped]

mutual
theorem print_indented (depth : Option Nat) (node : Node QualifiedName) :
    printNode none (indented depth node) = printNode depth node := by
  cases node with
  | text value => rfl
  | comment value => rfl
  | instruction target data => rfl
  | element name attributes children =>
      cases children with
      | nil => rfl
      | cons first rest =>
          have inner := print_indented_nodes
            ((if (first :: rest).any Node.isText then none else depth).map (· + 1)) (first :: rest)
          rw [indented, printNode]
          simp only [List.isEmpty_cons, Bool.false_eq_true, if_false]
          generalize (if (first :: rest).any Node.isText then none else depth) = space at inner ⊢
          have shape : ∃ head tail, indentedNodes (space.map (· + 1)) (first :: rest) ++
              lineSpace space = head :: tail := by
            cases space <;> exact ⟨_, _, rfl⟩
          obtain ⟨head, tail, shape⟩ := shape
          simp only [shape]
          rw [printNode, ← shape]
          simp only [ite_self, Option.map_none, print_children_append, inner, print_line_space]
          cases space <;> simp

theorem print_indented_nodes (depth : Option Nat) (nodes : List (Node QualifiedName)) :
    printChildren none (indentedNodes depth nodes) = printChildren depth nodes := by
  cases nodes with
  | nil => rfl
  | cons first rest =>
      have one := print_indented depth first
      have others := print_indented_nodes depth rest
      rw [indentedNodes, print_children_append, print_line_space]
      cases depth with
      | none => simp only [printChildren, one, others, List.nil_append]
      | some depth => simp only [printChildren, one, others, List.nil_append, List.append_assoc]
end

-- An element that holds one text or elements only, and so all elements in it.
inductive Tidy (scope : Scope) : Nat → Node QualifiedName → Prop
  | leaf (height : Nat) (name : QualifiedName) (attributes : List (QualifiedName × String))
      (value : String) (tag : LegibleTag scope name attributes)
      (allowed : hasForbidden value = false) :
      Tidy scope (height + 1) (.element name attributes [.text value])
  | branch (height : Nat) (name : QualifiedName) (attributes : List (QualifiedName × String))
      (children : List (Node QualifiedName)) (tag : LegibleTag scope name attributes)
      (inside : ∀ child ∈ children, Tidy scope height child) :
      Tidy scope (height + 1) (.element name attributes children)

theorem tidy_solid (scope : Scope) (height : Nat) (node : Node QualifiedName)
    (tidy : Tidy scope height node) : node.isText = false := by
  cases tidy <;> rfl

theorem line_space_allowed (depth : Nat) :
    hasForbidden (String.ofList (lineStart depth)) = false := by
  rw [hasForbidden, String.toList_ofList, List.any_eq_false]
  intro c member
  rcases line_start_blank depth c member with rfl | rfl <;> decide

theorem spaced_text (depth : Option Nat) (value : String) :
    spaced depth [.text value] = [.text value] := rfl

theorem spaced_solid (depth : Option Nat) (nodes : List (Node QualifiedName))
    (solid : nodes.any Node.isText = false) :
    spaced depth nodes =
      if nodes.isEmpty then [] else indentedNodes (depth.map (· + 1)) nodes ++ lineSpace depth := by
  rw [spaced, solid]
  rfl

theorem indented_solid (depth : Option Nat) (node : Node QualifiedName)
    (solid : node.isText = false) : (indented depth node).isText = false := by
  cases node with
  | text value => simp [Node.isText] at solid
  | comment value => rfl
  | instruction target data => rfl
  | element name attributes children => rfl

theorem apart_indented (depth last : Option Nat) (nodes : List (Node QualifiedName))
    (solid : ∀ node ∈ nodes, node.isText = false) :
    Apart (indentedNodes depth nodes ++ lineSpace last) := by
  induction nodes with
  | nil => cases last <;> simp [indentedNodes, lineSpace, Apart]
  | cons first rest ih =>
      have later := ih fun node member => solid node (List.mem_cons_of_mem _ member)
      have kept := indented_solid depth first (solid first List.mem_cons_self)
      cases depth with
      | none => simpa [indentedNodes, lineSpace, Apart, kept] using later
      | some depth => simpa [indentedNodes, lineSpace, Apart, kept] using later

theorem mem_line_space (depth : Option Nat) (node : Node QualifiedName)
    (member : node ∈ lineSpace depth) :
    ∃ depth, node = .text (String.ofList (lineStart depth)) := by
  cases depth with
  | none => cases member
  | some depth => exact ⟨depth, List.mem_singleton.mp member⟩

theorem mem_indented (depth : Option Nat) (nodes : List (Node QualifiedName))
    (node : Node QualifiedName) (member : node ∈ indentedNodes depth nodes) :
    (∃ depth, node = .text (String.ofList (lineStart depth))) ∨
      ∃ child ∈ nodes, node = indented depth child := by
  induction nodes with
  | nil => cases member
  | cons first rest ih =>
      rw [indentedNodes, List.mem_append, List.mem_cons] at member
      rcases member with space | rfl | later
      · exact .inl (mem_line_space depth node space)
      · exact .inr ⟨first, List.mem_cons_self, rfl⟩
      · rcases ih later with space | ⟨child, inside, shape⟩
        · exact .inl space
        · exact .inr ⟨child, List.mem_cons_of_mem _ inside, shape⟩

theorem spaced_legible (scope : Scope) (height : Nat) (depth : Option Nat)
    (nodes : List (Node QualifiedName)) (solid : ∀ node ∈ nodes, node.isText = false)
    (legible : ∀ depth, ∀ node ∈ nodes, Legible scope height (indented depth node)) :
    (∀ node ∈ spaced depth nodes, Legible scope height node) ∧ Apart (spaced depth nodes) := by
  have noText : nodes.any Node.isText = false := by
    rw [List.any_eq_false]
    intro node member
    simp [solid node member]
  have space : ∀ depth, Legible scope height (.text (String.ofList (lineStart depth))) :=
    fun depth => .text height _ (line_space_allowed depth)
  rw [spaced_solid depth nodes noText]
  cases nodes with
  | nil => simp [Apart]
  | cons first rest =>
      refine ⟨?_, apart_indented _ _ _ solid⟩
      intro node member
      rcases List.mem_append.mp member with inside | last
      · rcases mem_indented _ _ node inside with ⟨other, rfl⟩ | ⟨child, known, rfl⟩
        · exact space other
        · exact legible _ child known
      · obtain ⟨other, rfl⟩ := mem_line_space _ node last
        exact space other

theorem tidy_legible (scope : Scope) (height : Nat) (depth : Option Nat)
    (node : Node QualifiedName) (tidy : Tidy scope height node) :
    Legible scope height (indented depth node) := by
  induction tidy generalizing depth with
  | leaf height name attributes value tag allowed =>
      rw [indented_element, spaced_text]
      refine .element height name attributes _ tag ?_ ?_
      · simpa using Legible.text height value allowed
      · simp [Apart]
  | branch height name attributes children tag inside ih =>
      obtain ⟨legible, apart⟩ := spaced_legible scope height depth children
        (fun child member => tidy_solid scope height child (inside child member))
        (fun depth child member => ih child member depth)
      rw [indented_element]
      exact .element height name attributes _ tag legible apart

def restored (scope : Scope) (depth : Option Nat) : Node QualifiedName → Node ExpandedName
  | .element name attributes children =>
      .element (scope.expanded name) (plainAttributes attributes)
        (resolvedNodes scope (spaced depth children))
  | .text value => .text value
  | .comment value => .comment value
  | .instruction target data => .instruction target data

theorem resolved_append (scope : Scope) (nodes more : List (Node QualifiedName)) :
    resolvedNodes scope (nodes ++ more) = resolvedNodes scope nodes ++ resolvedNodes scope more := by
  induction nodes with
  | nil => rfl
  | cons first rest ih => rw [List.cons_append, resolvedNodes, resolvedNodes, ih, List.append_assoc]

theorem resolved_indented (scope : Scope) (depth : Option Nat) (node : Node QualifiedName)
    (solid : node.isText = false) :
    resolvedNode scope (indented depth node) = [restored scope depth node] := by
  cases node with
  | text value => simp [Node.isText] at solid
  | comment value => rfl
  | instruction target data => rfl
  | element name attributes children =>
      rw [indented_element, resolvedNode, restored]

theorem restored_text (scope : Scope) (depth : Option Nat) (value : String) :
    resolvedNodes scope (spaced depth [.text value]) = if value = "" then [] else [.text value] := by
  rw [spaced_text, resolvedNodes, resolvedNodes, resolvedNode, List.append_nil]

section Selection

variable {Value : Type} (select : Node ExpandedName → List Value)

theorem select_line_space (scope : Scope) (depth : Option Nat)
    (skips : ∀ value, select (.text value) = []) :
    (resolvedNodes scope (lineSpace depth)).flatMap select = [] := by
  cases depth with
  | none => rfl
  | some depth =>
      have solid : String.ofList (lineStart depth) ≠ "" := by simp [lineStart]
      simp [lineSpace, resolvedNodes, resolvedNode, solid, skips]

theorem select_spaced (scope : Scope) (depth : Option Nat) (nodes : List (Node QualifiedName))
    (solid : ∀ node ∈ nodes, node.isText = false) (skips : ∀ value, select (.text value) = []) :
    (resolvedNodes scope (spaced depth nodes)).flatMap select =
      nodes.flatMap fun node => select (restored scope (depth.map (· + 1)) node) := by
  have noText : nodes.any Node.isText = false := by
    rw [List.any_eq_false]
    intro node member
    simp [solid node member]
  have inner : ∀ depth, (resolvedNodes scope (indentedNodes depth nodes)).flatMap select =
      nodes.flatMap fun node => select (restored scope depth node) := by
    intro depth
    clear noText
    induction nodes with
    | nil => rfl
    | cons first rest ih =>
        have later := ih fun node member => solid node (List.mem_cons_of_mem _ member)
        have one := resolved_indented scope depth first (solid first List.mem_cons_self)
        rw [indentedNodes, resolved_append, List.flatMap_append,
          select_line_space select scope depth skips, resolvedNodes, one, List.flatMap_append,
          later]
        simp
  rw [spaced_solid depth nodes noText]
  cases nodes with
  | nil => rfl
  | cons first rest =>
      rw [List.isEmpty_cons, if_neg (by simp), resolved_append, List.flatMap_append, inner,
        select_line_space select scope depth skips, List.append_nil]

end Selection

theorem filter_spaced (scope : Scope) (depth : Option Nat) (nodes : List (Node QualifiedName))
    (solid : ∀ node ∈ nodes, node.isText = false) (wanted : Node ExpandedName → Bool)
    (skips : ∀ value, wanted (.text value) = false) :
    (resolvedNodes scope (spaced depth nodes)).filter wanted =
      (nodes.map (restored scope (depth.map (· + 1)))).filter wanted := by
  rw [← List.filterMap_eq_filter, List.filterMap_eq_flatMap_toList,
    List.filterMap_eq_flatMap_toList, List.flatMap_map,
    select_spaced _ scope depth nodes solid (by simp [skips])]

theorem mem_resolved (scope : Scope) (nodes : List (Node QualifiedName))
    (node : Node ExpandedName) :
    node ∈ resolvedNodes scope nodes ↔ ∃ child ∈ nodes, node ∈ resolvedNode scope child := by
  induction nodes with
  | nil => simp [resolvedNodes]
  | cons first rest ih => simp [resolvedNodes, ih]

theorem mem_spaced (scope : Scope) (depth : Option Nat) (nodes : List (Node QualifiedName))
    (solid : ∀ node ∈ nodes, node.isText = false) (node : Node ExpandedName)
    (member : node ∈ resolvedNodes scope (spaced depth nodes)) :
    (∃ depth, node = .text (String.ofList (lineStart depth))) ∨
      ∃ child ∈ nodes, ∃ depth, node = restored scope depth child := by
  have noText : nodes.any Node.isText = false := by
    rw [List.any_eq_false]
    intro node member
    simp [solid node member]
  have line : ∀ depth, node ∈ resolvedNode scope (.text (String.ofList (lineStart depth))) →
      node = .text (String.ofList (lineStart depth)) := by
    intro depth inside
    rw [resolvedNode] at inside
    split at inside
    · cases inside
    · exact List.mem_singleton.mp inside
  obtain ⟨written, inside, found⟩ := (mem_resolved scope _ node).mp member
  rw [spaced_solid depth nodes noText] at inside
  split at inside
  · cases inside
  · rcases List.mem_append.mp inside with shown | last
    · rcases mem_indented _ _ written shown with ⟨depth, rfl⟩ | ⟨child, known, rfl⟩
      · exact .inl ⟨depth, line depth found⟩
      · rw [resolved_indented scope _ child (solid child known)] at found
        exact .inr ⟨child, known, _, List.mem_singleton.mp found⟩
    · obtain ⟨depth, rfl⟩ := mem_line_space _ written last
      exact .inl ⟨depth, line depth found⟩

end ProcessDiagram.Xml
