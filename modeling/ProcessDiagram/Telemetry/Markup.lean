import ProcessDiagram.Text.Basic

set_option autoImplicit false

namespace ProcessDiagram.Markup

inductive Piece where
  | char (value : Char)
  | opening (name : List Char)
  | closing (name : List Char)
deriving DecidableEq, Repr

def styles : List String :=
  ["b", "d", "n", "h", "i", "l", "s", "u", "v", "bold", "dim", "normal", "hide", "italic", "blink",
    "strike", "underline", "reverse", "level", "lvl"]

def hues : List String :=
  let letters := ["k", "r", "g", "y", "e", "m", "c", "w"]
  let words := ["black", "red", "green", "yellow", "blue", "magenta", "cyan", "white"]
  letters ++ letters.map ("l" ++ ·) ++ words ++ words.map ("light-" ++ ·)

def isOctet (digits : List Char) : Bool :=
  !digits.isEmpty && digits.all Char.isDigit &&
    digits.foldl (fun value c => value * 10 + (c.toNat - '0'.toNat)) 0 ≤ 255

def isHex (c : Char) : Bool :=
  c.isDigit || ('a' ≤ c.toLower && c.toLower ≤ 'f')

def isColour (colour : List Char) : Bool :=
  let parts := Text.splitAtMark ',' colour
  hues.contains (String.ofList (colour.map Char.toLower)) || isOctet colour ||
    (match colour with
    | '#' :: digits => (digits.length = 3 || digits.length = 6) && digits.all isHex
    | _ => false) ||
    (parts.length = 3 && parts.all isOctet)

def isStyle (name : List Char) : Bool :=
  match name with
  | 'f' :: 'g' :: ' ' :: colour | 'b' :: 'g' :: ' ' :: colour => isColour colour
  | name =>
      let text := String.ofList name
      styles.contains text || hues.contains text || (hues.map String.toUpper).contains text

def isNameChar (c : Char) : Bool :=
  c ≠ '<' && c ≠ '>' && c ≠ ' ' && c ≠ '\x7b' && c ≠ '\x7d'

def scanName? (input : List Char) : Option (List Char × List Char) :=
  let (ground, rest) := match input with
    | 'f' :: 'g' :: ' ' :: rest => (['f', 'g', ' '], rest)
    | 'b' :: 'g' :: ' ' :: rest => (['b', 'g', ' '], rest)
    | rest => ([], rest)
  match rest.dropWhile isNameChar with
  | '>' :: after => some (ground ++ rest.takeWhile isNameChar, after)
  | _ => none

def scanTag? : List Char → Option (Piece × List Char)
  | '<' :: '/' :: rest => (scanName? rest).map fun (name, rest) => (.closing name, rest)
  | '<' :: rest => (scanName? rest).map fun (name, rest) => (.opening name, rest)
  | _ => none

def plainPieces (chars : List Char) : List Piece :=
  chars.map Piece.char

def scanMarked? (input : List Char) : Option (List Piece × List Char) :=
  let slashes := input.takeWhile (· = '\\')
  let rest := input.drop slashes.length
  (scanTag? rest).map fun (tag, after) =>
    let kept := plainPieces (slashes.take (slashes.length / 2))
    if slashes.length % 2 = 0 then (kept ++ [tag], after)
    else (kept ++ plainPieces (rest.take (rest.length - after.length)), after)

def piecesUpTo : List Char → List Char → List Piece
  | [], _ | _, [] => []
  | _ :: bound, c :: rest =>
      match scanMarked? (c :: rest) with
      | some (marked, after) => marked ++ piecesUpTo bound after
      | none => .char c :: piecesUpTo bound rest

-- The pieces of a line; each step takes a character at least.
def pieces (line : List Char) : List Piece :=
  piecesUpTo line line

def plainFrom : List (List Char) → List Piece → Option (List Char)
  | [], [] => some []
  | _ :: _, [] => none
  | opened, .char c :: rest => (plainFrom opened rest).map (c :: ·)
  | opened, .opening name :: rest => if isStyle name then plainFrom (name :: opened) rest else none
  | [], .closing _ :: _ => none
  | inner :: outer, .closing name :: rest =>
      if name = [] || name = inner then plainFrom outer rest else none

def plain? (line : String) : Option String :=
  (plainFrom [] (pieces line.toList)).map String.ofList

end ProcessDiagram.Markup
