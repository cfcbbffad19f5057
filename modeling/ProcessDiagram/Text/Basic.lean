set_option autoImplicit false

namespace ProcessDiagram.Text

def hex (width number : Nat) : List Char :=
  let digits := Nat.toDigits 16 number
  List.replicate (width - digits.length) '0' ++ digits

def hexDigit? (c : Char) : Option Nat :=
  if '0' ≤ c && c ≤ '9' then some (c.toNat - '0'.toNat)
  else if 'a' ≤ c && c ≤ 'f' then some (c.toNat - 'a'.toNat + 10)
  else if 'A' ≤ c && c ≤ 'F' then some (c.toNat - 'A'.toNat + 10)
  else none

def numberIn? (base : Nat) (digits : List Char) : Option Nat :=
  if digits.isEmpty then none
  else
    digits.foldlM (fun value c =>
      ((hexDigit? c).filter (· < base)).map (value * base + ·)) 0

def hexNumber? (digits : List Char) : Option Nat :=
  numberIn? 16 digits

def inRanges (ranges : List (Nat × Nat)) (code : Nat) : Bool :=
  ranges.any fun range => range.1 ≤ code && code ≤ range.2

-- The separators of words, lines and paragraphs, and no character of zero width.
def whiteRanges : List (Nat × Nat) :=
  [(0x9, 0xd), (0x20, 0x20), (0x85, 0x85), (0xa0, 0xa0), (0x1680, 0x1680), (0x2000, 0x200a),
   (0x2028, 0x2029), (0x202f, 0x202f), (0x205f, 0x205f), (0x3000, 0x3000)]

def isWhite (c : Char) : Bool :=
  inRanges whiteRanges c.toNat

def isBlank (c : Char) : Bool :=
  isWhite c || inRanges [(0x1c, 0x1f)] c.toNat

def trimBoth (dropped : Char → Bool) (chars : List Char) : List Char :=
  ((chars.dropWhile dropped).reverse.dropWhile dropped).reverse

def stripChars (chars : List Char) : List Char :=
  trimBoth isBlank chars

def strip (text : String) : String :=
  String.ofList (stripChars text.toList)

def unifyLineEnds : List Char → List Char
  | [] => []
  | '\r' :: '\n' :: rest => '\n' :: unifyLineEnds rest
  | c :: rest => (if c = '\r' then '\n' else c) :: unifyLineEnds rest

def splitAtMark (mark : Char) : List Char → List (List Char)
  | [] => [[]]
  | c :: rest =>
      match splitAtMark mark rest with
      | [] => [[c]]
      | part :: parts => if c = mark then [] :: part :: parts else (c :: part) :: parts

-- Whether a word stands somewhere in a text; the empty word stands in every one.
def holdsChars (word : List Char) : List Char → Bool
  | [] => word.isEmpty
  | c :: rest => word.isPrefixOf (c :: rest) || holdsChars word rest

def holds (word text : String) : Bool :=
  holdsChars word.toList text.toList

def codesBefore : List Char → List Char → Bool
  | [], _ => true
  | _ :: _, [] => false
  | a :: first, b :: second =>
      if a.toNat < b.toNat then true
      else if b.toNat < a.toNat then false
      else codesBefore first second

def sort (texts : List String) : List String :=
  texts.mergeSort fun first second => codesBefore first.toList second.toList

end ProcessDiagram.Text
