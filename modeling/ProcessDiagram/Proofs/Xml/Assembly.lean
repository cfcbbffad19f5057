import ProcessDiagram.Proofs.Xml.Tokens
import ProcessDiagram.Xml.Written

set_option autoImplicit false

namespace ProcessDiagram.Xml

mutual
-- What a node is scanned as; an empty text leaves nothing behind.
def Written.ofNode : Node QualifiedName → List Written
  | .text value =>
      if value.toList = [] then [] else [.characters (value.toList.flatMap escapeContentChar)]
  | .element name attributes children =>
      [.element name.chars (attributes.map rawAttribute) (Written.ofNodes children)]
  | _ => []

def Written.ofNodes : List (Node QualifiedName) → List Written
  | [] => []
  | child :: rest => Written.ofNode child ++ Written.ofNodes rest
end

def Apart : List (Node QualifiedName) → Prop
  | [] => True
  | first :: rest => (first.isText → ∀ next ∈ rest.head?, next.isText = false) ∧ Apart rest

inductive Printable : Node QualifiedName → Prop
  | text (value : String) : Printable (.text value)
  | element (name : QualifiedName) (attributes : List (QualifiedName × String))
      (children : List (Node QualifiedName)) (plain : name.isPlain)
      (plainAttributes : ∀ pair ∈ attributes, pair.1.isPlain)
      (inside : ∀ child ∈ children, Printable child) (apart : Apart children) :
      Printable (.element name attributes children)

namespace Assembly

-- From one place in an input to another, with steps that the characters between them pay for.
def Scans (first : Assembly) (input : List Char) (second : Assembly) (rest : List Char) : Prop :=
  ∃ steps, steps + rest.length ≤ input.length ∧
    ∀ fuel, first.scanNode (fuel + steps) input = second.scanNode fuel rest

theorem scans_stay (assembly : Assembly) (input : List Char) :
    Scans assembly input assembly input :=
  ⟨0, by omega, fun _ => rfl⟩

theorem scans_trans (first second third : Assembly) (input middle rest : List Char)
    (one : Scans first input second middle) (other : Scans second middle third rest) :
    Scans first input third rest := by
  obtain ⟨steps, paid, run⟩ := one
  obtain ⟨more, paidMore, runMore⟩ := other
  refine ⟨more + steps, by omega, ?_⟩
  intro fuel
  rw [← Nat.add_assoc, run, runMore]

theorem scans_token (first second : Assembly) (input rest : List Char) (token : Token)
    (unfinished : first.isNode = false) (scanned : scanToken? input = some (token, rest))
    (added : first.addToken? token = some second) (shorter : rest.length < input.length) :
    Scans first input second rest := by
  refine ⟨1, by omega, ?_⟩
  intro fuel
  rw [scanNode, unfinished, scanned]
  simp [added]

def addAll (assembly : Assembly) (nodes : List Written) : Assembly :=
  nodes.foldl add assembly

theorem add_all_append (assembly : Assembly) (nodes more : List Written) :
    assembly.addAll (nodes ++ more) = (assembly.addAll nodes).addAll more :=
  List.foldl_append

theorem add_all_frame (frame : Frame) (outer : List Frame) (read nodes : List Written) :
    addAll ⟨frame :: outer, read⟩ nodes =
      ⟨{ frame with read := nodes.reverse ++ frame.read } :: outer, read⟩ := by
  induction nodes generalizing frame with
  | nil => rfl
  | cons node rest ih =>
      have later := ih { frame with read := node :: frame.read }
      rw [addAll] at later ⊢
      rw [List.foldl_cons, add, later]
      simp

theorem closed_by_name (name : List Char) (attributes : List RawAttribute) (read : List Written) :
    Frame.isClosedBy ⟨name, attributes, read⟩ name = true := by
  simp [Frame.isClosedBy, afterWord?]

def Tagged (input : List Char) : Prop :=
  ∃ rest, input = '<' :: rest

-- The node is scanned as what it is; a text ends only where a tag follows.
def ScansBack (node : Node QualifiedName) : Prop :=
  ∀ (assembly : Assembly) (rest : List Char), assembly.isNode = false →
    (node.isText → Tagged rest) →
    Scans assembly (printNode none node ++ rest) (assembly.addAll (Written.ofNode node)) rest

theorem scans_text (value : String) : ScansBack (.text value) := by
  intro assembly input unfinished followed
  obtain ⟨rest, rfl⟩ := followed rfl
  by_cases empty : value.toList = []
  · simpa [printNode, Written.ofNode, empty, addAll] using scans_stay assembly ('<' :: rest)
  · have scanned := scan_text value.toList rest empty
    rw [printNode, Written.ofNode, if_neg empty]
    refine scans_token _ _ _ _ _ unfinished scanned rfl ?_
    obtain ⟨c, others, shape⟩ := List.exists_cons_of_ne_nil empty
    have some_char := (content_escape c).nonempty
    have positive := List.length_pos_iff.mpr some_char
    rw [shape, List.flatMap_cons]
    simp only [List.length_append]
    omega

theorem print_tagged (node : Node QualifiedName) (rest : List Char) (solid : node.isText = false) :
    Tagged (printNode none node ++ rest) := by
  cases node with
  | text value => simp [Node.isText] at solid
  | comment value => exact ⟨_, rfl⟩
  | instruction target data => exact ⟨_, rfl⟩
  | element name attributes children =>
      cases children with
      | nil => exact ⟨_, rfl⟩
      | cons first others => exact ⟨_, rfl⟩

theorem print_children_tagged (nodes : List (Node QualifiedName)) (rest : List Char)
    (solid : ∀ next ∈ nodes.head?, next.isText = false) (tagged : Tagged rest) :
    Tagged (printChildren none nodes ++ rest) := by
  cases nodes with
  | nil => exact tagged
  | cons first others =>
      rw [printChildren, List.nil_append, List.append_assoc]
      exact print_tagged first _ (solid first rfl)

theorem add_all_unfinished (frame : Frame) (outer : List Frame) (read nodes : List Written) :
    (addAll ⟨frame :: outer, read⟩ nodes).isNode = false := by
  rw [add_all_frame]
  rfl

theorem scans_children (nodes : List (Node QualifiedName)) (back : ∀ node ∈ nodes, ScansBack node)
    (apart : Apart nodes) (frame : Frame) (outer : List Frame) (read : List Written)
    (rest : List Char) (tagged : Tagged rest) :
    Scans ⟨frame :: outer, read⟩ (printChildren none nodes ++ rest)
      (addAll ⟨frame :: outer, read⟩ (Written.ofNodes nodes)) rest := by
  induction nodes generalizing frame with
  | nil => exact scans_stay _ _
  | cons first others ih =>
      rw [printChildren, List.nil_append, List.append_assoc, Written.ofNodes, add_all_append]
      refine scans_trans _ _ _ _ _ _ (back first List.mem_cons_self _ _ rfl ?_) ?_
      · exact fun text => print_children_tagged others rest (apart.1 text) tagged
      · rw [add_all_frame]
        exact ih (fun node member => back node (List.mem_cons_of_mem _ member)) apart.2 _

theorem scans_end_tag (name : QualifiedName) (plain : name.isPlain)
    (attributes : List RawAttribute) (outer : List Frame) (read nodes : List Written)
    (rest : List Char) :
    Scans (addAll ⟨⟨name.chars, attributes, []⟩ :: outer, read⟩ nodes)
      ('<' :: '/' :: name.chars ++ '>' :: rest)
      (add ⟨outer, read⟩ (.element name.chars attributes nodes)) rest := by
  refine scans_token _ _ _ _ _ (add_all_unfinished _ _ _ _) (scan_end_tag name rest plain) ?_ ?_
  · rw [add_all_frame, addToken?, close?]
    simp only [closed_by_name, if_true, Frame.close]
    simp
  · simp only [List.length_append, List.length_cons]
    omega

theorem scans_element (name : QualifiedName) (attributes : List (QualifiedName × String))
    (children : List (Node QualifiedName)) (plain : name.isPlain)
    (plainAttributes : ∀ pair ∈ attributes, pair.1.isPlain)
    (back : ∀ child ∈ children, ScansBack child) (apart : Apart children) :
    ScansBack (.element name attributes children) := by
  rintro ⟨outer, read⟩ rest unfinished _
  have shorter : ∀ closed tail, tail.length < ('<' :: name.chars ++
      attributes.flatMap printAttribute ++ tagEnd closed ++ tail).length := by
    intro closed tail
    simp only [List.length_append, List.length_cons]
    omega
  cases children with
  | nil =>
      have opened := scan_start_tag name attributes true rest plain plainAttributes
      exact scans_token _ _ _ _ _ unfinished opened rfl (shorter true rest)
  | cons first others =>
      have opened := scan_start_tag name attributes false
        (printChildren none (first :: others) ++ ('<' :: '/' :: name.chars ++ '>' :: rest))
        plain plainAttributes
      have printed : printNode none (.element name attributes (first :: others)) ++ rest =
          '<' :: name.chars ++ attributes.flatMap printAttribute ++ tagEnd false ++
            (printChildren none (first :: others) ++ ('<' :: '/' :: name.chars ++ '>' :: rest)) := by
        simp [printNode, tagEnd]
      rw [printed]
      refine scans_trans _ _ _ _ _ _
        (scans_token _ _ _ _ _ unfinished opened rfl (shorter false _)) ?_
      refine scans_trans _ _ _ _ _ _
        (scans_children _ back apart _ _ _ _ ⟨_, rfl⟩) ?_
      exact scans_end_tag name plain _ outer read _ rest

theorem scans_printed (node : Node QualifiedName) (printable : Printable node) :
    ScansBack node := by
  induction printable with
  | text value => exact scans_text value
  | element name attributes children plain plainAttributes _ apart ih =>
      exact scans_element name attributes children plain plainAttributes ih apart

end Assembly

theorem Written.scan_printed (name : QualifiedName) (attributes : List (QualifiedName × String))
    (children : List (Node QualifiedName)) (rest : List Char)
    (printable : Printable (.element name attributes children)) :
    Written.scan? (printNode none (.element name attributes children) ++ rest) =
      some (.element name.chars (attributes.map rawAttribute) (Written.ofNodes children), rest) := by
  obtain ⟨steps, paid, run⟩ := Assembly.scans_printed _ printable {} rest rfl (by simp [Node.isText])
  generalize printNode none (.element name attributes children) ++ rest = input at paid run ⊢
  obtain ⟨fuel, split⟩ : ∃ fuel, input.length + 1 = (fuel + 1) + steps :=
    ⟨input.length - steps, by omega⟩
  rw [Written.scan?, split, run]
  rfl

end ProcessDiagram.Xml
