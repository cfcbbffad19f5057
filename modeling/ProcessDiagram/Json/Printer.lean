import ProcessDiagram.Decimal.Shortest
import ProcessDiagram.Json.Basic
import ProcessDiagram.Text.Basic

set_option autoImplicit false

namespace ProcessDiagram.Json

def escapeUnit (unit : Nat) : List Char :=
  '\\' :: 'u' :: Text.hex 4 unit

def escapeChar (c : Char) : List Char :=
  if c = '"' || c = '\\' then ['\\', c]
  else if c = '\n' then ['\\', 'n']
  else if c = '\r' then ['\\', 'r']
  else if c = '\t' then ['\\', 't']
  else if c = '\x08' then ['\\', 'b']
  else if c = '\x0c' then ['\\', 'f']
  else if 0x20 ≤ c.toNat && c.toNat ≤ 0x7e then [c]
  else if c.toNat < 0x10000 then escapeUnit c.toNat
  else
    let offset := c.toNat - 0x10000
    escapeUnit (0xd800 + offset / 1024) ++ escapeUnit (0xdc00 + offset % 1024)

def printText (text : String) : String :=
  String.ofList ('"' :: text.toList.flatMap escapeChar ++ ['"'])

def printDecimal (value : Float) : String :=
  match Decimal.Binary.ofFloat value with
  | .infinite negative => if negative then "-Infinity" else "Infinity"
  | .undefined => "NaN"
  | .finite .. => Decimal.shortestText value

structure Spacing where
  opening : Nat → String
  between : Nat → String
  closing : Nat → String

def Spacing.oneLine : Spacing :=
  ⟨fun _ => "", fun _ => ", ", fun _ => ""⟩

def indentation (depth : Nat) : String :=
  "\n" ++ String.ofList (List.replicate (2 * depth) ' ')

def Spacing.indented : Spacing :=
  ⟨fun depth => indentation (depth + 1), fun depth => "," ++ indentation (depth + 1), indentation⟩

mutual
def print (spacing : Spacing) (depth : Nat) : Json → String
  | .null => "null"
  | .bool value => if value then "true" else "false"
  | .integer value => toString value
  | .decimal value => printDecimal value
  | .text value => printText value
  | .list [] => "[]"
  | .list (item :: rest) =>
      "[" ++ spacing.opening depth ++ print spacing (depth + 1) item ++
        printItems spacing depth rest ++ spacing.closing depth ++ "]"
  | .record [] => "\x7b\x7d"
  | .record ((key, value) :: rest) =>
      "\x7b" ++ spacing.opening depth ++ printText key ++ ": " ++ print spacing (depth + 1) value ++
        printFields spacing depth rest ++ spacing.closing depth ++ "\x7d"

def printItems (spacing : Spacing) (depth : Nat) : List Json → String
  | [] => ""
  | item :: rest =>
      spacing.between depth ++ print spacing (depth + 1) item ++ printItems spacing depth rest

def printFields (spacing : Spacing) (depth : Nat) : List (String × Json) → String
  | [] => ""
  | (key, value) :: rest =>
      spacing.between depth ++ printText key ++ ": " ++ print spacing (depth + 1) value ++
        printFields spacing depth rest
end

def compact (value : Json) : String :=
  print .oneLine 0 value

def pretty (value : Json) : String :=
  print .indented 0 value

end ProcessDiagram.Json
