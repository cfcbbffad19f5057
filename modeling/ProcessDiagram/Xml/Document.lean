import ProcessDiagram.Xml.DocumentType.Declaration
import ProcessDiagram.Xml.Written

set_option autoImplicit false

namespace ProcessDiagram.Xml

structure Document where
  before : List (List Char)
  type : Option DocumentType
  between : List (List Char)
  root : Written
  after : List (List Char)
  unread : List Char

namespace Document

def scanAsides : Nat → List Char → Option (List (List Char) × List Char)
  | 0, _ => none
  | fuel + 1, input =>
      match skipSpaces input with
      | '<' :: '!' :: '-' :: '-' :: rest => do
          let (_, rest) ← scanComment? rest
          scanAsides fuel rest
      | '<' :: '?' :: rest => do
          let ((target, _), rest) ← scanInstruction? rest
          let (others, rest) ← scanAsides fuel rest
          some (target :: others, rest)
      | rest => some ([], rest)

def scanAsides? (input : List Char) : Option (List (List Char) × List Char) :=
  scanAsides (input.length + 1) input

def scanType? (input : List Char) : Option (Option DocumentType × List Char) :=
  match afterWord? "<!DOCTYPE".toList input with
  | some rest => (DocumentType.scan? rest).map fun (type, rest) => (some type, rest)
  | none => some (none, input)

def scan? (input : List Char) : Option Document := do
  let (before, rest) ← scanAsides? input
  let (type, rest) ← scanType? rest
  let (between, rest) ← scanAsides? rest
  let (root, rest) ← Written.scan? rest
  let (after, unread) ← scanAsides? rest
  if (input.take (input.length - unread.length)).any isForbidden then none
  else some { before, type, between, root, after, unread }

end Document

end ProcessDiagram.Xml
