import ProcessDiagram.Text.Basic
import ProcessDiagram.Xml.Character

set_option autoImplicit false

namespace ProcessDiagram.Xml

def skipSpaces (input : List Char) : List Char :=
  input.dropWhile isSpace

def startsWithSpace : List Char → Bool
  | [] => false
  | c :: _ => isSpace c

def afterSpaces? (input : List Char) : Option (List Char) :=
  if startsWithSpace input then some (skipSpaces input) else none

def breakOn (mark : List Char) : List Char → Option (List Char × List Char)
  | [] => none
  | c :: rest =>
      if mark.isPrefixOf (c :: rest) then some ([], (c :: rest).drop mark.length)
      else (breakOn mark rest).map fun (before, after) => (c :: before, after)

def afterWord? (word input : List Char) : Option (List Char) :=
  if word.isPrefixOf input then some (input.drop word.length) else none

def scanQuoted? : List Char → Option (List Char × List Char)
  | '"' :: rest => breakOn ['"'] rest
  | '\'' :: rest => breakOn ['\''] rest
  | _ => none

def scanValue? (input : List Char) : Option (List Char × List Char) :=
  (scanQuoted? input).filter fun (value, _) => !value.contains '<'

def isNameMark (c : Char) : Bool :=
  isNameChar c || c = ':'

def isNameHead (c : Char) : Bool :=
  isNameStart c || c = ':'

def isName : List Char → Bool
  | [] => false
  | c :: rest => isNameHead c && rest.all isNameMark

def maxNameSize : Nat := 50000

def sizeOf (chars : List Char) : Nat :=
  chars.foldr (fun c size => c.utf8Size + size) 0

def scanMarks? (input : List Char) : Option (List Char × List Char) :=
  let marks := input.takeWhile isNameMark
  if marks.isEmpty || maxNameSize < sizeOf marks then none
  else some (marks, input.dropWhile isNameMark)

def scanName? : List Char → Option (List Char × List Char)
  | [] => none
  | c :: rest => if isNameHead c then scanMarks? (c :: rest) else none

def scanComment? (input : List Char) : Option (List Char × List Char) := do
  let (value, rest) ← breakOn ['-', '-'] input
  let rest ← afterWord? ['>'] rest
  some (Text.unifyLineEnds value, rest)

def scanInstruction? (input : List Char) : Option ((List Char × List Char) × List Char) := do
  let (target, rest) ← scanName? input
  if target.map Char.toLower = ['x', 'm', 'l'] then none
  else
    let (data, after) ← breakOn ['?', '>'] (skipSpaces rest)
    if !startsWithSpace rest && !data.isEmpty then none
    else some ((target, Text.unifyLineEnds data), after)

end ProcessDiagram.Xml
