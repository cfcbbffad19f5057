import ProcessDiagram.Text.Encoding.KsGrid

set_option autoImplicit false

namespace ProcessDiagram.Text.Encoding

def syllableStart : Nat := 0xac00

def syllableCount : Nat := 11172

def missing : List Nat → List Nat → List Nat
  | [], _ => []
  | numbers, [] => numbers
  | first :: numbers, other :: others =>
      if first = other then missing numbers others
      else first :: missing numbers (other :: others)

def commonSyllables : List Nat :=
  (ksX1001.filter fun (row, _) => 0x30 ≤ row && row ≤ 0x48).flatMap fun (_, _, cells) =>
    cells.toList.map Char.toNat

def otherSyllables : Array Char :=
  ((missing ((List.range syllableCount).map (· + syllableStart)) commonSyllables).map
    Char.ofNat).toArray

def freeColumn? (second : Nat) : Option Nat :=
  if 0x41 ≤ second && second ≤ 0x5a then some (second - 0x41)
  else if 0x61 ≤ second && second ≤ 0x7a then some (second - 0x61 + 26)
  else if 0x81 ≤ second && second ≤ 0xfe then some (second - 0x81 + 52)
  else none

def freePlace? (first second : Nat) : Option Nat := do
  let column ← freeColumn? second
  if first < 0x81 then none
  else if first ≤ 0xa0 then some (178 * (first - 0x81) + column)
  else if second ≤ 0xa0 then some (178 * 32 + 84 * (first - 0xa1) + column)
  else none

def koreanPrivate? (first second : Nat) : Option Char :=
  if second < 0xa1 || 0xfe < second then none
  else if first = 0xc9 then private? 0xe000 (second - 0xa1)
  else if first = 0xfe then private? 0xe05e (second - 0xa1)
  else none

def cp949Pair? (first second : Nat) : Option Char :=
  if first = 0xa2 && second = 0xe8 then none
  else
    (ksX1001.high? first second).or <| (koreanPrivate? first second).or <|
      (freePlace? first second).bind (otherSyllables[·]?)

inductive Part where
  | blank
  | letter (number : Nat)
deriving DecidableEq, Repr

-- The parts are numbered with gaps: each run begins at the bits given and has a length.
def partIn (blank : Nat) (runs : List (Nat × Nat)) (bits : Nat) : Option Part :=
  if bits = blank then some .blank
  else
    let numbers := runs.flatMap fun (first, length) => (List.range length).map (· + first)
    (numbers.idxOf? bits).map Part.letter

def initialPart : Nat → Option Part := partIn 1 [(2, 19)]

def medialPart : Nat → Option Part := partIn 2 [(3, 5), (10, 6), (18, 6), (26, 4)]

def finalPart : Nat → Option Part := partIn 1 [(2, 16), (19, 11)]

def initialLetters : String := "ㄱㄲㄴㄷㄸㄹㅁㅂㅃㅅㅆㅇㅈㅉㅊㅋㅌㅍㅎ"

def medialLetters : String := "ㅏㅐㅑㅒㅓㅔㅕㅖㅗㅘㅙㅚㅛㅜㅝㅞㅟㅠㅡㅢㅣ"

def finalLetters : List (Nat × Char) :=
  [(2, 'ㄳ'), (4, 'ㄵ'), (5, 'ㄶ'), (8, 'ㄺ'), (9, 'ㄻ'), (10, 'ㄼ'), (11, 'ㄽ'), (12, 'ㄾ'),
   (13, 'ㄿ'), (14, 'ㅀ'), (17, 'ㅄ')]

def syllable (initial medial final : Nat) : Char :=
  Char.ofNat (syllableStart + (initial * 21 + medial) * 28 + final)

def ofParts? : Part → Part → Part → Option Char
  | .letter initial, .letter medial, .blank => some (syllable initial medial 0)
  | .letter initial, .letter medial, .letter final => some (syllable initial medial (final + 1))
  | .letter initial, .blank, .blank => initialLetters.toList[initial]?
  | .blank, .letter medial, .blank => medialLetters.toList[medial]?
  | .blank, .blank, .letter final => List.lookup final finalLetters
  | _, _, _ => none

def partsPair? (first second : Nat) : Option Char := do
  let bits := 256 * first + second
  ofParts? (← initialPart (bits / 1024 % 32)) (← medialPart (bits / 32 % 32))
    (← finalPart (bits % 32))

def johabColumn? (second : Nat) : Option Nat :=
  if 0x31 ≤ second && second ≤ 0x7e then some (second - 0x31)
  else if 0x91 ≤ second && second ≤ 0xfe then some (second - 0x43)
  else none

def johabRow? (first : Nat) : Option Nat :=
  if 0xd9 ≤ first && first ≤ 0xde then some (2 * (first - 0xd9))
  else if 0xe0 ≤ first && first ≤ 0xf9 then some (2 * first - 0x197)
  else none

def johabOther? (first second : Nat) : Option Char := do
  let row ← johabRow? first
  let column ← johabColumn? second
  if first = 0xda && 0xa1 ≤ second && second ≤ 0xd3 then none
  else ksX1001.char? (row + column / 94 + 0x21) (column % 94)

def johabSingle? (octet : Nat) : Option Char :=
  if octet = 0x5c then some '₩' else ascii? octet

def korean : List Encoding :=
  [ofScan ["euc-kr", "euckr", "cseuckr"] (scanMixed ascii? ksX1001.high?),
   ofScan ["cp949", "uhc"] (scanMixed ascii? cp949Pair?),
   ofScan ["johab", "cp1361"] (scanMixed johabSingle? fun first second =>
     (partsPair? first second).or (johabOther? first second))]

end ProcessDiagram.Text.Encoding
