import ProcessDiagram.Xml.Name

set_option autoImplicit false

namespace ProcessDiagram.Xml

abbrev RawAttribute := List Char × List Char

inductive Token where
  | startTag (name : List Char) (attributes : List RawAttribute) (closed : Bool)
  | endTag (raw : List Char)
  | characters (raw : List Char)
  | verbatim (value : List Char)
  | comment (value : List Char)
  | instruction (target data : List Char)
deriving DecidableEq, Repr

-- A name in a tag. One that is flawed is read on to the first character that is no part of it, and
-- where this is the end of a line, it takes in the carriage return.
def scanTagName? (input : List Char) : Option (List Char × List Char) := do
  let (name, rest) ← scanName? input
  match rest with
  | '\r' :: '\n' :: after =>
      if (divide name).flawed then some (name ++ ['\r'], '\n' :: after) else some (name, rest)
  | _ => some (name, rest)

def scanAttribute? (input : List Char) : Option (RawAttribute × List Char) := do
  let (name, rest) ← scanTagName? input
  let rest ← afterWord? ['='] (skipSpaces rest)
  let (value, rest) ← scanValue? (skipSpaces rest)
  some ((name, value), rest)

def scanAttributesUpTo : List Char → List Char → Option (List RawAttribute × Bool × List Char)
  | [], _ => none
  | _ :: bound, input =>
      match skipSpaces input with
      | '>' :: rest => some ([], false, rest)
      | '/' :: '>' :: rest => some ([], true, rest)
      | spaced =>
          if startsWithSpace input then
            match scanAttribute? spaced with
            | none => none
            | some (pair, rest) =>
                (scanAttributesUpTo bound rest).map fun (attributes, closed, rest) =>
                  (pair :: attributes, closed, rest)
          else none

-- The attributes up to the end of a start tag, and whether the tag closes its element. There are never
-- more of them than characters.
def scanAttributes? (input : List Char) : Option (List RawAttribute × Bool × List Char) :=
  scanAttributesUpTo input input

def scanStartTag? (input : List Char) : Option (Token × List Char) := do
  let (name, rest) ← scanTagName? input
  let (attributes, closed, rest) ← scanAttributes? rest
  some (.startTag name attributes closed, rest)

def sectionStart : List Char := ['[', 'C', 'D', 'A', 'T', 'A', '[']

def sectionEnd : List Char := [']', ']', '>']

def scanMarked? (input : List Char) : Option (Token × List Char) :=
  match afterWord? ['-', '-'] input with
  | some rest => (scanComment? rest).map fun (value, rest) => (.comment value, rest)
  | none => do
      let rest ← afterWord? sectionStart input
      let (value, rest) ← breakOn sectionEnd rest
      some (.verbatim (Text.unifyLineEnds value), rest)

def scanToken? : List Char → Option (Token × List Char)
  | '<' :: '!' :: rest => scanMarked? rest
  | '<' :: '?' :: rest =>
      (scanInstruction? rest).map fun ((target, data), rest) => (.instruction target data, rest)
  | '<' :: '/' :: rest => (breakOn ['>'] rest).map fun (raw, rest) => (.endTag raw, rest)
  | '<' :: rest => scanStartTag? rest
  | input =>
      let raw := input.takeWhile (· ≠ '<')
      if (breakOn sectionEnd raw).isSome then none
      else some (.characters (Text.unifyLineEnds raw), input.dropWhile (· ≠ '<'))

end ProcessDiagram.Xml
