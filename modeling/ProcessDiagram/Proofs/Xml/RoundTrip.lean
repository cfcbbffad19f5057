import ProcessDiagram.Proofs.Xml.Spacing
import ProcessDiagram.Xml.Reader

set_option autoImplicit false

namespace ProcessDiagram.Xml

theorem mark_allowed (c : Char) (mark : isNameMark c) : isForbidden c = false := by
  cases forbidden : isForbidden c with
  | false => rfl
  | true =>
      have range : c.toNat < 0x20 ∨ c.toNat = 0xfffe ∨ c.toNat = 0xffff := by
        simp only [isForbidden, Bool.or_eq_true, Bool.and_eq_true, decide_eq_true_eq] at forbidden
        rcases forbidden with (low | last) | last
        · exact .inl low.1.1.1
        · exact .inr (.inl last)
        · exact .inr (.inr last)
      have outside : c ≠ ':' := by
        rintro rfl
        revert range
        decide
      simp only [isNameMark, isNameChar, isNameStart, Text.inRanges, nameStartRanges,
        nameMoreRanges, outside, decide_false, Bool.or_false] at mark
      simp at mark
      omega

-- No character that a document must not hold, and no carriage return, which is read as a line feed.
def Clean (input : List Char) : Prop :=
  ∀ c ∈ input, isForbidden c = false ∧ c ≠ '\r'

theorem clean_nil : Clean [] :=
  fun _ member => nomatch member

theorem clean_append (first second : List Char) :
    Clean (first ++ second) ↔ Clean first ∧ Clean second := by
  simp only [Clean, List.forall_mem_append]

theorem clean_cons (c : Char) (rest : List Char) :
    Clean (c :: rest) ↔ (isForbidden c = false ∧ c ≠ '\r') ∧ Clean rest := by
  simp only [Clean, List.forall_mem_cons]

theorem clean_flat {Value : Type} (values : List Value) (shown : Value → List Char)
    (clean : ∀ value ∈ values, Clean (shown value)) : Clean (values.flatMap shown) := by
  intro c member
  obtain ⟨value, inside, here⟩ := List.mem_flatMap.mp member
  exact clean value inside c here

theorem text_allowed (value : String) (allowed : hasForbidden value = false) (c : Char)
    (member : c ∈ value.toList) : isForbidden c = false := by
  rw [hasForbidden, List.any_eq_false] at allowed
  simpa using allowed c member

theorem clean_content (value : String) (allowed : hasForbidden value = false) :
    Clean (value.toList.flatMap escapeContentChar) := by
  intro d member
  obtain ⟨c, inside, here⟩ := List.mem_flatMap.mp member
  exact ⟨(content_escape c).allowed (text_allowed value allowed c inside) d here,
    (content_free value.toList d member).2.2⟩

theorem clean_value (value : String) (allowed : hasForbidden value = false) :
    Clean (value.toList.flatMap escapeAttributeChar) := by
  intro d member
  obtain ⟨c, inside, here⟩ := List.mem_flatMap.mp member
  exact ⟨(attribute_escape c).allowed (text_allowed value allowed c inside) d here,
    (attribute_free value.toList d member).2.2⟩

theorem clean_name (name : QualifiedName) (plain : name.isPlain) : Clean name.chars := by
  intro c member
  have mark := name_marks name plain c member
  refine ⟨mark_allowed c mark, ?_⟩
  rintro rfl
  revert mark
  decide

theorem clean_attribute (pair : QualifiedName × String) (plain : pair.1.isPlain)
    (allowed : hasForbidden pair.2 = false) : Clean (printAttribute pair) := by
  have value := clean_value pair.2 allowed
  simp only [printAttribute, clean_append, clean_cons, clean_nil, clean_name pair.1 plain, value]
  decide

theorem clean_children (nodes : List (Node QualifiedName))
    (clean : ∀ node ∈ nodes, Clean (printNode none node)) : Clean (printChildren none nodes) := by
  induction nodes with
  | nil => exact clean_nil
  | cons first rest ih =>
      have later := ih fun node member => clean node (List.mem_cons_of_mem _ member)
      rw [printChildren, List.nil_append, clean_append]
      exact ⟨clean first List.mem_cons_self, later⟩

theorem clean_element (name : QualifiedName) (attributes : List (QualifiedName × String))
    (children : List (Node QualifiedName)) (plain : name.isPlain)
    (plainAttributes : ∀ pair ∈ attributes, pair.1.isPlain)
    (values : ∀ pair ∈ attributes, hasForbidden pair.2 = false)
    (inside : ∀ child ∈ children, Clean (printNode none child)) :
    Clean (printNode none (.element name attributes children)) := by
  have named := clean_name name plain
  have tags := clean_flat attributes printAttribute fun pair member =>
    clean_attribute pair (plainAttributes pair member) (values pair member)
  have content := clean_children children inside
  cases children with
  | nil =>
      simp only [printNode, clean_append, clean_cons, clean_nil, named, tags]
      decide
  | cons first rest =>
      simp only [printNode, ite_self, Option.map_none, clean_append, clean_cons, clean_nil, named,
        tags, content]
      decide

theorem clean_legible (scope : Scope) (height : Nat) (node : Node QualifiedName)
    (legible : Legible scope height node) : Clean (printNode none node) := by
  induction legible with
  | text height value allowed => exact clean_content value allowed
  | element height name attributes children tag _ _ ih =>
      exact clean_element name attributes children tag.plain
        (fun pair member => (unqualified_name pair.1 (tag.unqualified pair member)).1)
        tag.allowed ih

theorem clean_spaced (scope : Scope) (height : Nat) (name : QualifiedName)
    (attributes : List (QualifiedName × String)) (children : List (Node QualifiedName))
    (plain : name.isPlain) (plainAttributes : ∀ pair ∈ attributes, pair.1.isPlain)
    (values : ∀ pair ∈ attributes, hasForbidden pair.2 = false)
    (legible : ∀ child ∈ spaced (some 0) children, Legible scope height child) :
    Clean (printNode none (.element name attributes (spaced (some 0) children))) :=
  clean_element name attributes _ plain plainAttributes values fun child member =>
    clean_legible scope height child (legible child member)

theorem scan_asides_none (stop : Char) (first : stop ≠ '!') (second : stop ≠ '?')
    (input rest : List Char) (shape : skipSpaces input = '<' :: stop :: rest) :
    Document.scanAsides? input = some ([], '<' :: stop :: rest) := by
  rw [Document.scanAsides?, Document.scanAsides, shape]
  split
  · rename_i same
    exact absurd (List.cons.inj (List.cons.inj same).2).1 first
  · rename_i same
    exact absurd (List.cons.inj (List.cons.inj same).2).1 second
  · rfl

theorem scan_type_none (stop : Char) (first : stop ≠ '!') (rest : List Char) :
    Document.scanType? ('<' :: stop :: rest) = some (none, '<' :: stop :: rest) := by
  have apart : afterWord? "<!DOCTYPE".toList ('<' :: stop :: rest) = none := by
    have other : ¬ '!' = stop := fun same => first same.symm
    rw [afterWord?]
    simp [other]
  rw [Document.scanType?, apart]

theorem name_head_marks (c : Char) (head : isNameHead c) : c ≠ '!' ∧ c ≠ '?' := by
  constructor <;> (rintro rfl; revert head; decide)

theorem preamble_declared (content : List Char) :
    Preamble.read? (declaration.toList ++ content) = some { content } := rfl

theorem scan_document (name : QualifiedName) (attributes : List (QualifiedName × String))
    (children : List (Node QualifiedName))
    (printable : Printable (.element name attributes children))
    (clean : Clean (printNode none (.element name attributes children))) :
    Document.scan? ('\n' :: printNode none (.element name attributes children) ++ ['\n']) =
      some {
        before := [], type := none, between := [],
        root := .element name.chars (attributes.map rawAttribute) (Written.ofNodes children),
        after := [], unread := [] } := by
  have scanned := Written.scan_printed name attributes children ['\n'] printable
  obtain ⟨stop, rest, shape, head⟩ : ∃ stop rest,
      printNode none (.element name attributes children) ++ ['\n'] = '<' :: stop :: rest ∧
        isNameHead stop := by
    cases printable with
    | element _ _ _ plain =>
        obtain ⟨stop, more, chars, head⟩ := name_head name plain
        cases children <;>
          exact ⟨stop, _, by simp only [printNode, chars, List.cons_append]; rfl, head⟩
  obtain ⟨notType, notInstruction⟩ := name_head_marks stop head
  have input : '\n' :: printNode none (.element name attributes children) ++ ['\n'] =
      '\n' :: '<' :: stop :: rest := by
    rw [List.cons_append, shape]
  have whole : Clean ('\n' :: '<' :: stop :: rest) := by
    rw [← input, List.cons_append, clean_cons, clean_append]
    exact ⟨by decide, clean, (clean_cons _ _).mpr ⟨by decide, clean_nil⟩⟩
  have forbidden : ('\n' :: '<' :: stop :: rest).any isForbidden = false := by
    rw [List.any_eq_false]
    intro c member
    simp [(whole c member).1]
  have before := scan_asides_none stop notType notInstruction ('\n' :: '<' :: stop :: rest) rest rfl
  have between := scan_asides_none stop notType notInstruction ('<' :: stop :: rest) rest rfl
  have after : Document.scanAsides? ['\n'] = some ([], []) := rfl
  rw [shape] at scanned
  rw [input, Document.scan?, before]
  simp only [Option.bind_eq_bind, Option.bind_some, scan_type_none stop notType, between, scanned,
    after, List.length_nil, Nat.sub_zero, List.take_length, forbidden]
  rfl

theorem read_document_root (root : Written) (node : Node ExpandedName) (found : Findings)
    (run : Reading.readRoot root found = some (node, found)) :
    Reading.readDocument
      { before := [], type := none, between := [], root, after := [], unread := [] } found =
      some (node, found) := by
  rw [Reading.readDocument]
  simp only [Reading.readTargets, pure_bind]
  rw [Reading.run_bind _ _ found found node run]
  rfl

theorem read_root_element (raw : List Char) (attributes : List RawAttribute)
    (children : List Written) (tag : Tag) (content : Content) (found : Findings)
    (opened : Reading.readTag {} raw attributes found = some (tag, found))
    (inside : Reading.readNodes (Reading.expandEntity Reading.maxNesting) (Reading.enter {} tag)
      children found = some (content, found)) :
    Reading.readRoot (.element raw attributes children) found =
      some (.element tag.name tag.attributes content, found) := by
  have run : Reading.readContent (.element raw attributes children) found =
      some ([.element tag.name tag.attributes content], found) := by
    rw [Reading.readContent, Reading.readNode, if_neg (by decide),
      Reading.run_bind _ _ found found _ opened, Reading.run_bind _ _ found found _ inside]
    rfl
  rw [Reading.readRoot, Reading.run_bind _ _ found found _ run]
  rfl

theorem read_declared (text : String) (content : List Char) (document : Document)
    (root : Node ExpandedName) (preamble : Preamble.read? text.toList = some { content })
    (scanned : Document.scan? content = some document)
    (run : ∀ found : Findings, found.doctype.attributes = [] →
      Reading.readDocument document found = some (root, found)) :
    read text = some root := by
  have readAll := run (Findings.initial { content }) rfl
  rw [read, preamble]
  simp only [Option.bind_eq_bind, Option.bind_some, scanned, StateT.run, readAll]
  rfl

theorem document_chars (name : QualifiedName) (attributes : List (QualifiedName × String))
    (children : List (Node QualifiedName)) :
    (printDocument (.element name attributes children)).toList =
      declaration.toList ++ ('\n' :: printNode none (.element name attributes
        (spaced (some 0) children)) ++ ['\n']) := by
  rw [← indented_element, print_indented, printDocument]
  simp

theorem clean_document (scope : Scope) (height : Nat) (name : QualifiedName)
    (attributes : List (QualifiedName × String)) (children : List (Node QualifiedName))
    (plain : name.isPlain) (plainAttributes : ∀ pair ∈ attributes, pair.1.isPlain)
    (values : ∀ pair ∈ attributes, hasForbidden pair.2 = false)
    (tidy : ∀ child ∈ children, Tidy scope height child) :
    Clean (printDocument (.element name attributes children)).toList := by
  obtain ⟨legible, _⟩ := spaced_legible scope height (some 0) children
    (fun child member => tidy_solid scope height child (tidy child member))
    (fun depth child member => tidy_legible scope height depth child (tidy child member))
  have root := clean_spaced scope height name attributes children plain plainAttributes values
    legible
  have front : Clean declaration.toList := by
    have all : declaration.toList.all (fun c => !isForbidden c && c ≠ '\r') = true := by decide
    simpa [Clean] using all
  rw [document_chars, clean_append, List.cons_append, clean_cons, clean_append, clean_cons]
  exact ⟨front, by decide, root, by decide, clean_nil⟩

theorem read_printed (name : QualifiedName) (attributes kept : List (QualifiedName × String))
    (children : List (Node QualifiedName)) (spaces : Scope) (height : Nat)
    (shallow : height + 1 ≤ Reading.maxDepth)
    (plain : ∀ pair ∈ attributes, pair.1.isPlain)
    (allowed : ∀ pair ∈ attributes, hasForbidden pair.2 = false)
    (declared : Reading.readWritten {} [] [] (attributes.map rawAttribute) =
      pure (spaces, Reading.tagAttributes kept))
    (tag : LegibleTag (Scope.initial.extend spaces) name kept)
    (tidy : ∀ child ∈ children, Tidy (Scope.initial.extend spaces) height child) :
    read (printDocument (.element name attributes children)) =
      some (.element ((Scope.initial.extend spaces).expanded name) (plainAttributes kept)
        (resolvedNodes (Scope.initial.extend spaces) (spaced (some 0) children))) := by
  generalize within : Scope.initial.extend spaces = scope at tag tidy
  obtain ⟨legible, apart⟩ := spaced_legible scope height (some 0) children
    (fun child member => tidy_solid scope height child (tidy child member))
    (fun depth child member => tidy_legible scope height depth child (tidy child member))
  have printable : ∀ child ∈ spaced (some 0) children, Printable child :=
    fun child member => legible_printable scope height child (legible child member)
  have whole := Printable.element name attributes _ tag.plain plain printable apart
  have clean := clean_spaced scope height name attributes children tag.plain plain allowed legible
  have scanned := scan_document name attributes _ whole clean
  refine read_declared _ _ _ _ (by rw [document_chars]; exact preamble_declared _) scanned ?_
  intro found noRules
  have place : ({} : Surroundings).scope.extend spaces = scope := within
  have opened := Reading.read_tag_with {} name (attributes.map rawAttribute) spaces kept found
    noRules tag.plain declared (by rw [place]; exact tag)
  rw [place] at opened
  have content := Reading.reads_children scope height _ printable
    (fun child member => Reading.reads_legible scope height child (legible child member)) apart
    (Reading.expandEntity Reading.maxNesting)
    (Reading.enter {} ⟨scope.expanded name, plainAttributes kept, scope⟩) found rfl
    (by simp only [Reading.enter]; omega) noRules
  exact read_document_root _ _ found (read_root_element _ _ _ _ _ found opened content)

end ProcessDiagram.Xml
