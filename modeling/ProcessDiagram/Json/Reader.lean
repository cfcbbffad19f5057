import ProcessDiagram.Decimal.Rounding
import ProcessDiagram.Json.Display
import ProcessDiagram.Text.Basic

set_option autoImplicit false

namespace ProcessDiagram.Json

inductive ReadError where
  | malformed
  | overlongInteger
  | nestedTooDeep
deriving DecidableEq, Repr

def skipBlanks (input : List Char) : List Char :=
  input.dropWhile fun c => c = ' ' || c = '\t' || c = '\n' || c = '\r'

def after? : List Char → List Char → Option (List Char)
  | [], input => some input
  | _ :: _, [] => none
  | expected :: word, c :: input => if expected = c then after? word input else none

def hexUnit? : List Char → Option (Nat × List Char)
  | a :: b :: c :: d :: rest => do
      let high := (← Text.hexDigit? a) * 16 + (← Text.hexDigit? b)
      let low := (← Text.hexDigit? c) * 16 + (← Text.hexDigit? d)
      some (high * 256 + low, rest)
  | _ => none

def isHighSurrogate (unit : Nat) : Bool := 0xd800 ≤ unit && unit ≤ 0xdbff

def isLowSurrogate (unit : Nat) : Bool := 0xdc00 ≤ unit && unit ≤ 0xdfff

-- A code unit, joined with the one after it when the two are a surrogate pair. A surrogate that has
-- no other half is no character: it is read as U+FFFF, which like it no document may hold and no id
-- is made of, but so two different ones are read as the same.
def unitChar (unit : Nat) (rest : List Char) : Char × List Char :=
  let lone := if isHighSurrogate unit || isLowSurrogate unit then '\uffff' else Char.ofNat unit
  if isHighSurrogate unit then
    match rest with
    | '\\' :: 'u' :: more =>
        match hexUnit? more with
        | some (second, tail) =>
            if isLowSurrogate second then
              (Char.ofNat (0x10000 + (unit - 0xd800) * 1024 + (second - 0xdc00)), tail)
            else (lone, rest)
        | none => (lone, rest)
    | _ => (lone, rest)
  else (lone, rest)

def escapedChar? : Char → Option Char
  | '"' => some '"'
  | '\\' => some '\\'
  | '/' => some '/'
  | 'b' => some '\x08'
  | 'f' => some '\x0c'
  | 'n' => some '\n'
  | 'r' => some '\r'
  | 't' => some '\t'
  | _ => none

def readChars : Nat → List Char → List Char → Except ReadError (String × List Char)
  | 0, _, _ => .error .malformed
  | _, _, [] => .error .malformed
  | _ + 1, read, '"' :: rest => .ok (String.ofList read.reverse, rest)
  | fuel + 1, read, '\\' :: 'u' :: rest =>
      match hexUnit? rest with
      | none => .error .malformed
      | some (unit, tail) =>
          let (c, tail) := unitChar unit tail
          readChars fuel (c :: read) tail
  | fuel + 1, read, '\\' :: c :: rest =>
      match escapedChar? c with
      | none => .error .malformed
      | some plain => readChars fuel (plain :: read) rest
  | fuel + 1, read, c :: rest =>
      if c.toNat < 0x20 then .error .malformed else readChars fuel (c :: read) rest

def readText (input : List Char) : Except ReadError (String × List Char) :=
  readChars (input.length + 1) [] input

def isDigit (c : Char) : Bool := '0' ≤ c && c ≤ '9'

def digitsValue (digits : List Char) : Nat :=
  digits.foldl (fun value c => value * 10 + (c.toNat - '0'.toNat)) 0

def readFraction : List Char → List Char × List Char
  | '.' :: rest =>
      let digits := rest.takeWhile isDigit
      if digits.isEmpty then ([], '.' :: rest) else (digits, rest.drop digits.length)
  | input => ([], input)

def readExponent (input : List Char) : Option Int × List Char :=
  match input with
  | c :: rest =>
      if c = 'e' || c = 'E' then
        let (negative, unsigned) := match rest with
          | '-' :: more => (true, more)
          | '+' :: more => (false, more)
          | more => (false, more)
        let digits := unsigned.takeWhile isDigit
        if digits.isEmpty then (none, input)
        else
          let size : Int := digitsValue digits
          (some (if negative then -size else size), unsigned.drop digits.length)
      else (none, input)
  | [] => (none, input)

def readUnsigned (negative : Bool) (input : List Char) : Except ReadError (Json × List Char) :=
  let whole := match input with
    | '0' :: _ => ['0']
    | _ => input.takeWhile isDigit
  if whole.isEmpty then .error .malformed
  else
    let (fraction, rest) := readFraction (input.drop whole.length)
    let (exponent, rest) := readExponent rest
    if fraction.isEmpty && exponent.isNone then
      if maxDigits < whole.length then .error .overlongInteger
      else
        let value : Int := digitsValue whole
        .ok (.integer (if negative then -value else value), rest)
    else
      let digits := digitsValue (whole ++ fraction)
      let place := exponent.getD 0 - fraction.length
      .ok (.decimal (Decimal.ofScientific negative digits place), rest)

def infinity (negative : Bool) : Float :=
  Decimal.ofScientific negative 1 400

def notANumber : Float :=
  Float.ofBits 0x7ff8000000000000

def readNumber (input : List Char) : Except ReadError (Json × List Char) :=
  match input with
  | '-' :: rest =>
      match after? ['I', 'n', 'f', 'i', 'n', 'i', 't', 'y'] rest with
      | some rest => .ok (.decimal (infinity true), rest)
      | none => readUnsigned true rest
  | _ => readUnsigned false input

def words : List (List Char × Json) :=
  [(['n', 'u', 'l', 'l'], .null), (['t', 'r', 'u', 'e'], .bool true),
   (['f', 'a', 'l', 's', 'e'], .bool false), (['N', 'a', 'N'], .decimal notANumber),
   (['I', 'n', 'f', 'i', 'n', 'i', 't', 'y'], .decimal (infinity false))]

def readWord? (input : List Char) : Option (Json × List Char) :=
  words.findSome? fun (word, value) => (after? word input).map fun rest => (value, rest)

-- How many lists and records may stand inside one another.
def maxDepth : Nat := 980

mutual
-- Reads one value; two steps per character are always enough.
def readValue : Nat → Nat → List Char → Except ReadError (Json × List Char)
  | 0, _, _ => .error .malformed
  | fuel + 1, depth, input =>
      match input with
      | '"' :: rest => (readText rest).map fun (chars, rest) => (.text chars, rest)
      | '[' :: rest =>
          if depth = 0 then .error .nestedTooDeep
          else
            match skipBlanks rest with
            | ']' :: rest => .ok (.list [], rest)
            | rest =>
                (readItems fuel (depth - 1) [] rest).map fun (items, rest) => (.list items, rest)
      | '\x7b' :: rest =>
          if depth = 0 then .error .nestedTooDeep
          else
            match skipBlanks rest with
            | '\x7d' :: rest => .ok (.record [], rest)
            | rest =>
                (readFields fuel (depth - 1) [] rest).map fun (fields, rest) =>
                  (.record fields, rest)
      | _ =>
          match readWord? input with
          | some found => .ok found
          | none => readNumber input

def readItems : Nat → Nat → List Json → List Char → Except ReadError (List Json × List Char)
  | 0, _, _, _ => .error .malformed
  | fuel + 1, depth, read, input => do
      let (item, rest) ← readValue fuel depth input
      match skipBlanks rest with
      | ',' :: rest => readItems fuel depth (item :: read) (skipBlanks rest)
      | ']' :: rest => .ok ((item :: read).reverse, rest)
      | _ => .error .malformed

def readFields : Nat → Nat → Table String Json → List Char →
    Except ReadError (Table String Json × List Char)
  | 0, _, _, _ => .error .malformed
  | fuel + 1, depth, read, '"' :: input => do
      let (key, rest) ← readText input
      match skipBlanks rest with
      | ':' :: rest =>
          let (value, rest) ← readValue fuel depth (skipBlanks rest)
          let read := Table.put key value read
          match skipBlanks rest with
          | ',' :: rest => readFields fuel depth read (skipBlanks rest)
          | '\x7d' :: rest => .ok (read, rest)
          | _ => .error .malformed
      | _ => .error .malformed
  | _, _, _, _ => .error .malformed
end

def readAll (input : List Char) : Except ReadError Json := do
  let (value, rest) ← readValue (2 * input.length + 2) maxDepth (skipBlanks input)
  if (skipBlanks rest).isEmpty then .ok value else .error .malformed

def read (input : String) : Except ReadError Json :=
  readAll input.toList

end ProcessDiagram.Json
