import ProcessDiagram.Decimal.Rounding

set_option autoImplicit false

namespace ProcessDiagram.Document

open Decimal

def dropTrailing (dropped : Char) (chars : List Char) : List Char :=
  (chars.reverse.dropWhile (· = dropped)).reverse

def coordinateChars : Binary → List Char
  | .finite negative mantissa exponent =>
      let (numerator, denominator) := Binary.ratio mantissa exponent
      if numerator % denominator = 0 then
        signed (negative && numerator ≠ 0) (Nat.toDigits 10 (numerator / denominator))
      else dropTrailing '.' (dropTrailing '0' (fixed 2 (.finite negative mantissa exponent)))
  | value => fixed 2 value

def coordinateText (value : Float) : String :=
  String.ofList (coordinateChars (Binary.ofFloat value))

end ProcessDiagram.Document
