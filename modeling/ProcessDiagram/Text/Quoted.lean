import ProcessDiagram.Text.Basic
import ProcessDiagram.Text.Printable

set_option autoImplicit false

namespace ProcessDiagram.Text

def quoteMark (chars : List Char) : Char :=
  if chars.contains '\'' && !chars.contains '"' then '"' else '\''

def escapeQuoted (mark c : Char) : List Char :=
  if c = mark || c = '\\' then ['\\', c]
  else if c = '\n' then ['\\', 'n']
  else if c = '\r' then ['\\', 'r']
  else if c = '\t' then ['\\', 't']
  else if isPrintable c then [c]
  else if c.toNat < 0x100 then '\\' :: 'x' :: hex 2 c.toNat
  else if c.toNat < 0x10000 then '\\' :: 'u' :: hex 4 c.toNat
  else '\\' :: 'U' :: hex 8 c.toNat

def quoteChars (chars : List Char) : List Char :=
  let mark := quoteMark chars
  mark :: chars.flatMap (escapeQuoted mark) ++ [mark]

def quote (text : String) : String :=
  String.ofList (quoteChars text.toList)

end ProcessDiagram.Text
