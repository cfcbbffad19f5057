import Mathlib.Tactic.SplitIfs
import ProcessDiagram.Xml.Content
import ProcessDiagram.Xml.Printer

set_option autoImplicit false

namespace ProcessDiagram.Xml

-- Each row: a name between the two marks of a reference, what is read there, and the character meant.
def references : List (List Char × Piece × Char) :=
  [(['a', 'm', 'p'], .entity ['a', 'm', 'p'], '&'),
    (['l', 't'], .entity ['l', 't'], '<'),
    (['g', 't'], .entity ['g', 't'], '>'),
    (['q', 'u', 'o', 't'], .entity ['q', 'u', 'o', 't'], '"'),
    (['#', '1', '3'], .escaped '\r', '\r'),
    (['#', '9'], .escaped '\t', '\t'),
    (['#', '1', '0'], .escaped '\n', '\n')]

def contentMarks : List Char := ['&', '<', '>', '\r']

def attributeMarks : List Char := ['"', '\t', '\n'] ++ contentMarks

-- None of the marks stands for itself.
inductive Escape (marks : List Char) (c : Char) : List Char → Piece → Prop where
  | reference (name : List Char) (piece : Piece) (known : (name, piece, c) ∈ references) :
      Escape marks c ('&' :: name ++ [';']) piece
  | itself (free : c ∉ marks) : Escape marks c [c] (.literal c)

def contentPiece (c : Char) : Piece :=
  if c = '&' then .entity ['a', 'm', 'p']
  else if c = '<' then .entity ['l', 't']
  else if c = '>' then .entity ['g', 't']
  else if c = '\r' then .escaped c
  else .literal c

def attributePiece (c : Char) : Piece :=
  if c = '"' then .entity ['q', 'u', 'o', 't']
  else if c = '\t' then .escaped c
  else if c = '\n' then .escaped c
  else contentPiece c

theorem content_escape (c : Char) : Escape contentMarks c (escapeContentChar c) (contentPiece c) := by
  rw [escapeContentChar, contentPiece]
  split_ifs with ampersand less greater feed
  · subst ampersand
    exact .reference ['a', 'm', 'p'] _ (by simp [references])
  · subst less
    exact .reference ['l', 't'] _ (by simp [references])
  · subst greater
    exact .reference ['g', 't'] _ (by simp [references])
  · subst feed
    exact .reference ['#', '1', '3'] _ (by simp [references])
  · exact .itself (by simp [contentMarks, ampersand, less, greater, feed])

theorem attribute_escape (c : Char) :
    Escape attributeMarks c (escapeAttributeChar c) (attributePiece c) := by
  rw [escapeAttributeChar, attributePiece]
  split_ifs with quote tab line
  · subst quote
    exact .reference ['q', 'u', 'o', 't'] _ (by simp [references])
  · subst tab
    exact .reference ['#', '9'] _ (by simp [references])
  · subst line
    exact .reference ['#', '1', '0'] _ (by simp [references])
  · have inner := content_escape c
    generalize escapeContentChar c = chars at inner
    generalize contentPiece c = piece at inner
    cases inner with
    | reference name _ known => exact .reference name _ known
    | itself free => exact .itself (by simp [attributeMarks, quote, tab, line, free])

-- Reading and expanding go by the name; nothing in a name could end the reference or be escaped.
theorem reference_known {name : List Char} {piece : Piece} {c : Char}
    (known : (name, piece, c) ∈ references) :
    reference? name = some piece ∧
      (∀ d ∈ name, d ≠ ';' ∧ d ∉ attributeMarks ∧ isForbidden d = false) ∧
      (∀ rest, segments (piece :: rest) = addChar c (segments rest)) ∧
      ∀ expand rest, Reading.valueOf expand (piece :: rest) = (do
        let others ← Reading.valueOf expand rest
        return c :: others) := by
  simp only [references, List.mem_cons, List.not_mem_nil, or_false, Prod.mk.injEq] at known
  rcases known with
    ⟨rfl, rfl, rfl⟩ | ⟨rfl, rfl, rfl⟩ | ⟨rfl, rfl, rfl⟩ | ⟨rfl, rfl, rfl⟩ |
      ⟨rfl, rfl, rfl⟩ | ⟨rfl, rfl, rfl⟩ | ⟨rfl, rfl, rfl⟩
  all_goals
    refine ⟨rfl, ?_, fun rest => rfl, fun expand rest => rfl⟩
    simp [attributeMarks, contentMarks, isForbidden]

theorem pieces_open (read name rest : List Char) (free : ∀ c ∈ name, c ≠ ';') :
    piecesFrom (some read) (name ++ ';' :: rest) = (do
      let piece ← reference? (read.reverse ++ name)
      let others ← piecesFrom none rest
      some (piece :: others)) := by
  induction name generalizing read with
  | nil => simp [piecesFrom]
  | cons c name ih =>
      have first := free c List.mem_cons_self
      rw [List.cons_append, piecesFrom, if_neg first,
        ih (c :: read) fun d member => free d (List.mem_cons_of_mem _ member)]
      simp

namespace Escape

variable {marks chars : List Char} {c : Char} {piece : Piece}

theorem pieces (escape : Escape marks c chars piece) (special : '&' ∈ marks) (rest : List Char) :
    piecesFrom none (chars ++ rest) = (piecesFrom none rest).map (piece :: ·) := by
  cases escape with
  | reference name _ known =>
      obtain ⟨meaning, free, _⟩ := reference_known known
      rw [List.append_assoc, List.singleton_append, List.cons_append, piecesFrom, if_pos rfl,
        pieces_open [] name rest fun d member => (free d member).1]
      simp only [List.reverse_nil, List.nil_append, meaning]
      cases piecesFrom none rest <;> rfl
  | itself free =>
      have plain : c ≠ '&' := fun same => free (same ▸ special)
      rw [List.singleton_append, piecesFrom, if_neg plain]

theorem free (escape : Escape marks c chars piece) (some_of : ∀ d ∈ marks, d ∈ attributeMarks)
    (mark : Char) (special : mark ∈ marks) (other : mark ≠ '&') : mark ∉ chars := by
  intro inside
  cases escape with
  | reference name _ known =>
      obtain ⟨_, free, _⟩ := reference_known known
      rcases List.mem_append.mp inside with before | last
      · rcases List.mem_cons.mp before with first | within
        · exact other first
        · exact (free mark within).2.1 (some_of mark special)
      · rw [List.mem_singleton.mp last] at special
        exact absurd (some_of _ special) (by simp [attributeMarks, contentMarks])
  | itself free => exact free (List.mem_singleton.mp inside ▸ special)

theorem allowed (escape : Escape marks c chars piece) (allowed : isForbidden c = false) :
    ∀ d ∈ chars, isForbidden d = false := by
  intro d inside
  cases escape with
  | reference name _ known =>
      obtain ⟨_, free, _⟩ := reference_known known
      rcases List.mem_append.mp inside with before | last
      · rcases List.mem_cons.mp before with rfl | within
        · rfl
        · exact (free d within).2.2
      · rw [List.mem_singleton.mp last]
        rfl
  | itself _ => rwa [List.mem_singleton.mp inside]

theorem nonempty (escape : Escape marks c chars piece) : chars ≠ [] := by
  cases escape with
  | reference _ _ _ => exact List.cons_ne_nil _ _
  | itself _ => exact List.cons_ne_nil _ _

theorem segments_eq (escape : Escape marks c chars piece) (rest : List Piece) :
    segments (piece :: rest) = addChar c (segments rest) := by
  cases escape with
  | reference _ _ known => exact (reference_known known).2.2.1 rest
  | itself _ => rfl

theorem value_eq (escape : Escape attributeMarks c chars piece)
    (expand : List Char → Reading (List Char)) (rest : List Piece) :
    Reading.valueOf expand (piece :: rest) = (do
      let others ← Reading.valueOf expand rest
      return c :: others) := by
  cases escape with
  | reference _ _ known => exact (reference_known known).2.2.2 expand rest
  | itself free =>
      -- A blank is the only space that stands for itself.
      have blank : (if isSpace c then ' ' else c) = c := by
        simp only [attributeMarks, contentMarks, List.cons_append, List.nil_append, List.mem_cons,
          List.not_mem_nil, or_false, not_or] at free
        simp [isSpace, free]
        exact fun same => same.symm
      rw [Reading.valueOf, blank]

end Escape

theorem pieces_content (text : List Char) :
    pieces? (text.flatMap escapeContentChar) = some (text.map contentPiece) := by
  induction text with
  | nil => rfl
  | cons c rest ih =>
      rw [pieces?] at ih ⊢
      rw [List.flatMap_cons, (content_escape c).pieces (by simp [contentMarks]), ih]
      rfl

theorem pieces_attribute (text : List Char) :
    pieces? (text.flatMap escapeAttributeChar) = some (text.map attributePiece) := by
  induction text with
  | nil => rfl
  | cons c rest ih =>
      rw [pieces?] at ih ⊢
      rw [List.flatMap_cons,
        (attribute_escape c).pieces (by simp [attributeMarks, contentMarks]), ih]
      rfl

theorem content_free (text : List Char) (mark : Char)
    (member : mark ∈ text.flatMap escapeContentChar) : mark ≠ '<' ∧ mark ≠ '>' ∧ mark ≠ '\r' := by
  obtain ⟨c, _, inside⟩ := List.mem_flatMap.mp member
  have absent := (content_escape c).free fun _ listed => List.mem_append_right _ listed
  refine ⟨?_, ?_, ?_⟩
  all_goals
    rintro rfl
    exact absent _ (by simp [contentMarks]) (by simp) inside

theorem attribute_free (text : List Char) (mark : Char)
    (member : mark ∈ text.flatMap escapeAttributeChar) :
    mark ≠ '<' ∧ mark ≠ '"' ∧ mark ≠ '\r' := by
  obtain ⟨c, _, inside⟩ := List.mem_flatMap.mp member
  have absent := (attribute_escape c).free fun _ listed => listed
  refine ⟨?_, ?_, ?_⟩
  all_goals
    rintro rfl
    exact absent _ (by simp [attributeMarks, contentMarks]) (by simp) inside

theorem unify_line_ends_free (text : List Char) (free : ∀ c ∈ text, c ≠ '\r') :
    Text.unifyLineEnds text = text := by
  induction text with
  | nil => rfl
  | cons c rest ih =>
      have first := free c List.mem_cons_self
      have later := ih fun c member => free c (List.mem_cons_of_mem _ member)
      rw [Text.unifyLineEnds]
      · rw [if_neg first, later]
      · rintro _ rfl
        exact absurd rfl first

theorem segments_content (text : List Char) :
    segments (text.map contentPiece) = if text = [] then [] else [.text text] := by
  induction text with
  | nil => rfl
  | cons c rest ih =>
      rw [List.map_cons, (content_escape c).segments_eq, ih]
      by_cases last : rest = [] <;> simp [last, addChar]

theorem value_attribute (expand : List Char → Reading (List Char)) (text : List Char) :
    Reading.valueOf expand (text.map attributePiece) = pure text := by
  induction text with
  | nil => rfl
  | cons c rest ih =>
      rw [List.map_cons, (attribute_escape c).value_eq, ih]
      rfl

end ProcessDiagram.Xml
