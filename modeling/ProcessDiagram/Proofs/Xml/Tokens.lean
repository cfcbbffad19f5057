import ProcessDiagram.Proofs.Xml.Escape
import ProcessDiagram.Xml.Token

set_option autoImplicit false

namespace ProcessDiagram.Xml

-- A name that reads as it is written: it is short, and its one colon, if any, divides it.
def QualifiedName.isPlain (name : QualifiedName) : Bool :=
  isName name.chars && decide (sizeOf name.chars ≤ maxNameSize) &&
    decide (divide name.chars = ⟨name, false⟩)

theorem plain_name (name : QualifiedName) (plain : name.isPlain) :
    isName name.chars ∧ sizeOf name.chars ≤ maxNameSize ∧ divide name.chars = ⟨name, false⟩ := by
  simpa [QualifiedName.isPlain, and_assoc] using plain

theorem head_is_mark (c : Char) (head : isNameHead c) : isNameMark c := by
  simp only [isNameHead, isNameMark, isNameChar, Bool.or_eq_true] at head ⊢
  rcases head with start | colon
  · exact .inl (.inl start)
  · exact .inr colon

theorem mark_solid (c : Char) (mark : isNameMark c) : isSpace c = false := by
  cases space : isSpace c with
  | false => rfl
  | true =>
      simp only [isSpace, Bool.or_eq_true, decide_eq_true_eq] at space
      rcases space with ((rfl | rfl) | rfl) | rfl <;> revert mark <;> decide

theorem name_head (name : QualifiedName) (plain : name.isPlain) :
    ∃ c rest, name.chars = c :: rest ∧ isNameHead c := by
  have valid := (plain_name name plain).1
  cases chars : name.chars with
  | nil => simp [chars, isName] at valid
  | cons c rest =>
      simp only [chars, isName, Bool.and_eq_true] at valid
      exact ⟨c, rest, rfl, valid.1⟩

theorem name_marks (name : QualifiedName) (plain : name.isPlain) (c : Char)
    (member : c ∈ name.chars) : isNameMark c := by
  have valid := (plain_name name plain).1
  cases chars : name.chars with
  | nil => simp [chars] at member
  | cons first rest =>
      simp only [chars, isName, Bool.and_eq_true, List.all_eq_true] at valid
      rw [chars] at member
      rcases List.mem_cons.mp member with rfl | later
      · exact head_is_mark c valid.1
      · exact valid.2 c later

theorem name_avoids (name : QualifiedName) (plain : name.isPlain) (mark : Char)
    (stop : isNameMark mark = false) : ∀ c ∈ name.chars, c ≠ mark := by
  rintro c member rfl
  simp [name_marks name plain c member] at stop

theorem scan_tag_name (name : QualifiedName) (plain : name.isPlain) (c : Char) (rest : List Char)
    (stop : isNameMark c = false) (feed : c ≠ '\r') :
    scanTagName? (name.chars ++ c :: rest) = some (name.chars, c :: rest) := by
  obtain ⟨_, short, _⟩ := plain_name name plain
  obtain ⟨first, others, chars, head⟩ := name_head name plain
  have taken : (name.chars ++ c :: rest).takeWhile isNameMark = name.chars := by
    rw [List.takeWhile_append_of_pos fun d member => name_marks name plain d member,
      List.takeWhile_cons_of_neg (by simp [stop]), List.append_nil]
  have dropped : (name.chars ++ c :: rest).dropWhile isNameMark = c :: rest := by
    rw [List.dropWhile_append_of_pos fun d member => name_marks name plain d member,
      List.dropWhile_cons_of_neg (by simp [stop])]
  have scanned : scanName? (name.chars ++ c :: rest) = some (name.chars, c :: rest) := by
    have marks : scanMarks? (name.chars ++ c :: rest) = some (name.chars, c :: rest) := by
      rw [scanMarks?, taken, dropped]
      have nonempty : name.chars.isEmpty = false := by rw [chars]; rfl
      rw [nonempty, if_neg (by simpa using short)]
    rw [← marks, chars, List.cons_append, scanName?, if_pos head]
  rw [scanTagName?, scanned]
  simp only [Option.bind_eq_bind, Option.bind_some]
  split
  · rename_i shape
    exact absurd (List.cons.inj shape).1 feed
  · rfl

def rawAttribute (pair : QualifiedName × String) : RawAttribute :=
  (pair.1.chars, pair.2.toList.flatMap escapeAttributeChar)

theorem break_on_mark (mark : Char) (before after : List Char) (free : ∀ c ∈ before, c ≠ mark) :
    breakOn [mark] (before ++ mark :: after) = some (before, after) := by
  induction before with
  | nil => simp [breakOn]
  | cons c rest ih =>
      have first := free c List.mem_cons_self
      have apart : ¬ mark = c := fun same => first same.symm
      rw [List.cons_append, breakOn, ih fun d member => free d (List.mem_cons_of_mem _ member)]
      simp [apart]

theorem scan_attribute (pair : QualifiedName × String) (plain : pair.1.isPlain) (rest : List Char) :
    scanAttribute? (pair.1.chars ++ '=' :: '"' :: (rawAttribute pair).2 ++ '"' :: rest) =
      some (rawAttribute pair, rest) := by
  have value : scanValue? ('"' :: (rawAttribute pair).2 ++ '"' :: rest) =
      some ((rawAttribute pair).2, rest) := by
    have quoted : scanQuoted? ('"' :: (rawAttribute pair).2 ++ '"' :: rest) =
        some ((rawAttribute pair).2, rest) :=
      break_on_mark '"' _ rest fun c member => (attribute_free _ c member).2.1
    have unopened : (rawAttribute pair).2.contains '<' = false := by
      rw [List.contains_eq_any_beq, List.any_eq_false]
      intro c member
      simpa using fun same : '<' = c => (attribute_free _ c member).1 same.symm
    rw [scanValue?, quoted, Option.filter_some, if_pos (by simp only [unopened, Bool.not_false])]
  have named := scan_tag_name pair.1 plain '=' ('"' :: (rawAttribute pair).2 ++ '"' :: rest)
    (by decide) (by decide)
  simp only [List.append_assoc, List.cons_append] at named value ⊢
  rw [scanAttribute?, named]
  have equals : afterWord? ['='] (skipSpaces ('=' :: '"' :: ((rawAttribute pair).2 ++ '"' :: rest))) =
      some ('"' :: ((rawAttribute pair).2 ++ '"' :: rest)) := rfl
  have spaced : skipSpaces ('"' :: ((rawAttribute pair).2 ++ '"' :: rest)) =
      '"' :: ((rawAttribute pair).2 ++ '"' :: rest) := rfl
  simp only [Option.bind_eq_bind, Option.bind_some, equals, spaced, value]
  rfl

def tagEnd (closed : Bool) : List Char :=
  if closed then ['/', '>'] else ['>']

theorem scan_first_attribute (pair : QualifiedName × String) (plain : pair.1.isPlain) (b : Char)
    (bound rest : List Char) :
    scanAttributesUpTo (b :: bound) (printAttribute pair ++ rest) =
      (scanAttributesUpTo bound rest).map fun read => (rawAttribute pair :: read.1, read.2) := by
  obtain ⟨c, chars, shape, head⟩ := name_head pair.1 plain
  have mark := head_is_mark c head
  have solid := mark_solid c mark
  have scanned := scan_attribute pair plain rest
  have text : printAttribute pair ++ rest =
      ' ' :: (pair.1.chars ++ '=' :: '"' :: (rawAttribute pair).2 ++ '"' :: rest) := by
    simp [printAttribute, rawAttribute]
  have skipped : ∀ tail, skipSpaces (' ' :: (pair.1.chars ++ tail)) = pair.1.chars ++ tail := by
    intro tail
    rw [skipSpaces, List.dropWhile_cons_of_pos (by decide), shape, List.cons_append,
      List.dropWhile_cons_of_neg (by simp [solid])]
  rw [text, scanAttributesUpTo]
  simp only [List.append_assoc, List.cons_append] at scanned ⊢
  rw [skipped]
  -- A name begins with neither of the marks that end a tag.
  split
  case h_1 found | h_2 found =>
    rw [shape] at found
    injection found with same
    subst same
    exact absurd mark (by decide)
  case h_3 =>
    rw [if_pos (by rfl), scanned]

theorem scan_attributes (attributes : List (QualifiedName × String)) (closed : Bool)
    (rest bound : List Char) (plain : ∀ pair ∈ attributes, pair.1.isPlain)
    (enough : attributes.length < bound.length) :
    scanAttributesUpTo bound (attributes.flatMap printAttribute ++ tagEnd closed ++ rest) =
      some (attributes.map rawAttribute, closed, rest) := by
  induction attributes generalizing bound with
  | nil =>
      cases bound with
      | nil => simp at enough
      | cons b bound => cases closed <;> rfl
  | cons pair others ih =>
      cases bound with
      | nil => simp at enough
      | cons b bound =>
          have later := ih bound (fun one member => plain one (List.mem_cons_of_mem _ member))
            (by simpa using enough)
          rw [List.flatMap_cons, List.append_assoc, List.append_assoc,
            scan_first_attribute pair (plain pair List.mem_cons_self), ← List.append_assoc, later]
          rfl

theorem attributes_length (attributes : List (QualifiedName × String)) :
    attributes.length ≤ (attributes.flatMap printAttribute).length := by
  induction attributes with
  | nil => exact Nat.le_refl 0
  | cons pair others ih =>
      have one : 0 < (printAttribute pair).length := Nat.succ_pos _
      rw [List.flatMap_cons, List.length_append, List.length_cons]
      omega

theorem scan_element_token (c : Char) (rest : List Char) (mark : isNameMark c) :
    scanToken? ('<' :: c :: rest) = scanStartTag? (c :: rest) := by
  unfold scanToken?
  split
  case h_1 found | h_2 found | h_3 found =>
    injection found with _ found
    injection found with same
    subst same
    exact absurd mark (by decide)
  case h_4 found =>
    injection found with _ found
    rw [found]
  case h_5 other => exact (other _ rfl).elim

theorem scan_start_tag (name : QualifiedName) (attributes : List (QualifiedName × String))
    (closed : Bool) (rest : List Char) (plainName : name.isPlain)
    (plain : ∀ pair ∈ attributes, pair.1.isPlain) :
    scanToken? ('<' :: name.chars ++ attributes.flatMap printAttribute ++ tagEnd closed ++ rest) =
      some (.startTag name.chars (attributes.map rawAttribute) closed, rest) := by
  have tail : ∃ c others, attributes.flatMap printAttribute ++ tagEnd closed ++ rest =
      c :: others ∧ isNameMark c = false ∧ c ≠ '\r' := by
    cases attributes with
    | nil =>
        cases closed
        · exact ⟨'>', rest, rfl, by decide, by decide⟩
        · exact ⟨'/', '>' :: rest, rfl, by decide, by decide⟩
    | cons pair others => exact ⟨' ', _, rfl, by decide, by decide⟩
  obtain ⟨c, others, shape, stop, feed⟩ := tail
  have named := scan_tag_name name plainName c others stop feed
  have scanned : scanAttributes? (c :: others) = some (attributes.map rawAttribute, closed, rest) := by
    rw [scanAttributes?, ← shape]
    apply scan_attributes attributes closed rest _ plain
    have counted := attributes_length attributes
    have ended : 0 < (tagEnd closed).length := by cases closed <;> decide
    simp only [List.length_append]
    omega
  obtain ⟨first, chars, nameShape, head⟩ := name_head name plainName
  have started : scanToken? ('<' :: (name.chars ++ c :: others)) =
      scanStartTag? (name.chars ++ c :: others) := by
    rw [nameShape, List.cons_append]
    exact scan_element_token first _ (head_is_mark first head)
  rw [List.append_assoc, List.append_assoc, ← List.append_assoc (attributes.flatMap printAttribute),
    shape, List.cons_append, started, scanStartTag?, named]
  simp [scanned]

theorem scan_end_tag (name : QualifiedName) (rest : List Char) (plain : name.isPlain) :
    scanToken? ('<' :: '/' :: name.chars ++ '>' :: rest) = some (.endTag name.chars, rest) := by
  have broken := break_on_mark '>' name.chars rest (name_avoids name plain '>' (by decide))
  simp [scanToken?, broken]

theorem break_on_absent (mark : List Char) (text : List Char) (last : Char) (ends : last ∈ mark)
    (free : ∀ c ∈ text, c ≠ last) : breakOn mark text = none := by
  induction text with
  | nil => rfl
  | cons c rest ih =>
      have absent : ¬ mark.isPrefixOf (c :: rest) := fun found =>
        free last ((List.isPrefixOf_iff_prefix.mp found).subset ends) rfl
      rw [breakOn, if_neg absent, ih fun d member => free d (List.mem_cons_of_mem _ member)]
      rfl

theorem scan_text (text : List Char) (rest : List Char) (nonempty : text ≠ []) :
    scanToken? (text.flatMap escapeContentChar ++ '<' :: rest) =
      some (.characters (text.flatMap escapeContentChar), '<' :: rest) := by
  have free := content_free text
  have some_char : text.flatMap escapeContentChar ≠ [] := by
    cases text with
    | nil => exact absurd rfl nonempty
    | cons c others =>
        intro empty
        rw [List.flatMap_cons, List.append_eq_nil_iff] at empty
        exact (content_escape c).nonempty empty.1
  generalize text.flatMap escapeContentChar = raw at free some_char
  have solid : ∀ c ∈ raw, (decide (c ≠ '<')) = true := fun c member => by simpa using (free c member).1
  have taken : (raw ++ '<' :: rest).takeWhile (· ≠ '<') = raw := by
    rw [List.takeWhile_append_of_pos solid, List.takeWhile_cons_of_neg (by simp), List.append_nil]
  have dropped : (raw ++ '<' :: rest).dropWhile (· ≠ '<') = '<' :: rest := by
    rw [List.dropWhile_append_of_pos solid, List.dropWhile_cons_of_neg (by simp)]
  have uncut : breakOn sectionEnd raw = none :=
    break_on_absent sectionEnd raw '>' (by decide) fun c member => (free c member).2.1
  have ended := unify_line_ends_free raw fun c member => (free c member).2.2
  unfold scanToken?
  split
  case h_5 =>
    rw [taken, dropped]
    simp only [uncut, ended]
    rfl
  all_goals
    rename_i found
    cases raw with
    | nil => exact absurd rfl some_char
    | cons c others => exact absurd (List.cons.inj found).1 (free c List.mem_cons_self).1

end ProcessDiagram.Xml
