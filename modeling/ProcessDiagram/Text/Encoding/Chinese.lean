import ProcessDiagram.Text.Encoding.BigFiveGrid
import ProcessDiagram.Text.Encoding.CnsGrid
import ProcessDiagram.Text.Encoding.GbGrid

set_option autoImplicit false

namespace ProcessDiagram.Text.Encoding

def gbkColumn? (second : Nat) : Option Nat :=
  if 0x40 ≤ second && second ≤ 0x7e then some (second - 0x40)
  else if 0x80 ≤ second && second ≤ 0xfe then some (second - 0x41)
  else none

def gbkPair? (first second : Nat) : Option Char :=
  ((gbkColumn? second).bind (gbkExtension.char? first)).or (gb2312.high? first second)

def gbPrivate? (first second : Nat) : Option Char := do
  let column ← gbkColumn? second
  if 0xaa ≤ first && first ≤ 0xaf && 0xa1 ≤ second then
    private? 0xe000 (94 * (first - 0xaa) + (second - 0xa1))
  else if 0xf8 ≤ first && 0xa1 ≤ second then
    private? 0xe234 (94 * (first - 0xf8) + (second - 0xa1))
  else if 0xa1 ≤ first && first ≤ 0xa7 && second < 0xa1 then
    private? 0xe4c6 (96 * (first - 0xa1) + column)
  else none

def cp936Pair? (first second : Nat) : Option Char :=
  (gbkPair? first second).or (gbPrivate? first second)

def cp936Single? (octet : Nat) : Option Char :=
  if octet = 0x80 then some '€' else ascii? octet

def privateRun? (pair : Nat) : Option Char :=
  privateRuns.findSome? fun (first, length, start) =>
    if first ≤ pair && pair < first + length then private? start (pair - first) else none

def gb18030Pair? (first second : Nat) : Option Char :=
  (cp936Pair? first second).or <|
    ((gbkColumn? second).bind (gb18030Extension.char? first)).or <|
      privateRun? (256 * first + second)

def simplified : List Encoding :=
  [ofScan ["gb2312", "euc-cn", "euccn", "cn-gb", "csgb2312"] (scanMixed ascii? gb2312.high?),
   ofScan ["gbk"] (scanMixed ascii? gbkPair?),
   ofScan ["cp936", "ms936", "windows-936"] (scanMixed cp936Single? cp936Pair?),
   ofScan ["gb18030", "csgb18030"] (scanMixed ascii? gb18030Pair?)]

def bigFiveColumn? (second : Nat) : Option Nat :=
  if 0x40 ≤ second && second ≤ 0x7e then some (second - 0x40)
  else if 0xa1 ≤ second && second ≤ 0xfe then some (second - 0x62)
  else none

def bigFiveWidth : Nat := 157

def bigFivePair? (first second : Nat) : Option Char :=
  (bigFiveColumn? second).bind (bigFive.char? first)

def isDisputed (first second : Nat) : Bool :=
  (first = 0xc6 && 0xa1 ≤ second) || first = 0xc7

def extended? (extension : Grid) (first second : Nat) : Option Char := do
  let column ← bigFiveColumn? second
  (extension.char? first column).or
    (if isDisputed first second then none else bigFive.char? first column)

def cp950Private? (first second : Nat) : Option Char := do
  let column ← bigFiveColumn? second
  if 0x81 ≤ first && first ≤ 0x8d then private? 0xeeb8 (bigFiveWidth * (first - 0x81) + column)
  else if 0x8e ≤ first && first ≤ 0xa0 then
    private? 0xe311 (bigFiveWidth * (first - 0x8e) + column)
  else if isDisputed first second || first = 0xc8 then
    private? 0xf672 (bigFiveWidth * (first - 0xc6) + column)
  else if 0xfa ≤ first && first ≤ 0xfe then
    private? 0xe000 (bigFiveWidth * (first - 0xfa) + column)
  else none

def cp950Pair? (first second : Nat) : Option Char :=
  (extended? cp950Extension first second).or (cp950Private? first second)

def markedPairs : List (Nat × List Char) :=
  [(0x8862, ['Ê', '\u0304']), (0x8864, ['Ê', '\u030c']), (0x88a3, ['ê', '\u0304']),
   (0x88a5, ['ê', '\u030c'])]

def scanHkscs : Scan
  | first :: second :: rest =>
      match List.lookup (256 * first + second) markedPairs with
      | some chars => some (chars, rest)
      | none => scanMixed ascii? (extended? hkscsExtension) (first :: second :: rest)
  | octets => scanMixed ascii? (extended? hkscsExtension) octets

def traditional : List Encoding :=
  [ofScan ["big5", "big-5", "big-five", "bigfive", "cn-big5", "csbig5"]
     (scanMixed ascii? bigFivePair?),
   ofScan ["cp950"] (scanMixed ascii? cp950Pair?),
   ofScan ["big5-hkscs", "big5hkscs"] scanHkscs,
   ofScan ["euc-tw", "euctw", "cseuctw"] (scanMixed ascii? cns11643.high?)]

end ProcessDiagram.Text.Encoding
