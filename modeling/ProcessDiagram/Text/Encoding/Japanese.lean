import ProcessDiagram.Text.Encoding.JisGrid

set_option autoImplicit false

namespace ProcessDiagram.Text.Encoding

def roman? (octet : Nat) : Option Char :=
  if octet = 0x5c then some '¥' else if octet = 0x7e then some '‾' else ascii? octet

def halfWidth? (octet : Nat) : Option Char :=
  if 0xa1 ≤ octet && octet ≤ 0xdf then some (Char.ofNat (octet - 0xa1 + 0xff61)) else none

def foldedColumn? (second : Nat) : Option Nat :=
  if 0x40 ≤ second && second ≤ 0x7e then some (second - 0x40)
  else if 0x80 ≤ second && second ≤ 0xfc then some (second - 0x41)
  else none

def foldedRow? (first : Nat) : Option Nat :=
  if 0x81 ≤ first && first ≤ 0x9f then some (first - 0x81)
  else if 0xe0 ≤ first && first ≤ 0xea then some (first - 0xc1)
  else none

def foldedWidth : Nat := 188

def folded? (first second : Nat) : Option Char := do
  let row ← foldedRow? first
  let column ← foldedColumn? second
  jisX0208.char? (2 * row + column / 94 + 0x21) (column % 94)

def foldedPrivate? (first second : Nat) : Option Char := do
  let column ← foldedColumn? second
  if 0xf0 ≤ first && first ≤ 0xf9 then private? 0xe000 (foldedWidth * (first - 0xf0) + column)
  else none

def foldedPair? (first second : Nat) : Option Char :=
  (folded? first second).or (foldedPrivate? first second)

def cp932Pair? (first second : Nat) : Option Char :=
  (foldedPair? first second).or ((foldedColumn? second).bind (cp932Extension.char? first))

def raised? (grid : Grid) (start first second : Nat) : Option Char :=
  if 0xf5 ≤ first && 0xa1 ≤ second && second ≤ 0xfe then
    private? start (94 * (first - 0xf5) + (second - 0xa1))
  else grid.high? first second

def raisedPair? (first second : Nat) : Option Char :=
  if first = 0x8e then halfWidth? second else raised? jisX0208 0xe000 first second

def scanRaised : Scan
  | 0x8f :: second :: third :: rest =>
      (raised? jisX0212 0xe3ac second third).map fun c => ([c], rest)
  | octets => scanMixed ascii? raisedPair? octets

def japanese : List Encoding :=
  [ofScan ["shift_jis", "shift-jis", "sjis", "ms_kanji", "csshiftjis"]
     (scanMixed (fun octet => (roman? octet).or (halfWidth? octet)) foldedPair?),
   ofScan ["cp932"] (scanMixed (fun octet => (ascii? octet).or (halfWidth? octet)) cp932Pair?),
   ofScan ["euc-jp", "eucjp", "extended_unix_code_packed_format_for_japanese",
     "cseucpkdfmtjapanese"] scanRaised]

end ProcessDiagram.Text.Encoding
