import ProcessDiagram.Decimal.Binary

set_option autoImplicit false

namespace ProcessDiagram.Decimal

def roundHalfEven (numerator denominator : Nat) : Nat :=
  let whole := numerator / denominator
  let twice := 2 * (numerator % denominator)
  if twice < denominator then whole
  else if denominator < twice then whole + 1
  else if whole % 2 = 0 then whole else whole + 1

def paddedDigits (width number : Nat) : List Char :=
  let digits := Nat.toDigits 10 number
  List.replicate (width - digits.length) '0' ++ digits

def placesText (places units : Nat) : List Char :=
  Nat.toDigits 10 (units / Nat.pow 10 places) ++
    if places = 0 then [] else '.' :: paddedDigits places (units % Nat.pow 10 places)

def signed (negative : Bool) (chars : List Char) : List Char :=
  if negative then '-' :: chars else chars

def fixed (places : Nat) : Binary → List Char
  | .finite negative mantissa exponent =>
      let (numerator, denominator) := Binary.ratio mantissa exponent
      signed negative (placesText places (roundHalfEven (numerator * Nat.pow 10 places) denominator))
  | .infinite negative => signed negative ['i', 'n', 'f']
  | .undefined => ['n', 'a', 'n']

def fixedText (places : Nat) (value : Float) : String :=
  String.ofList (fixed places (Binary.ofFloat value))

def nearestBits (numerator denominator : Nat) : Nat :=
  if numerator = 0 || denominator = 0 then 0
  else
    let guess : Int := (numerator.log2 : Int) - denominator.log2 - 53
    let quotient (exponent : Int) : Nat × Nat :=
      if 0 ≤ exponent then (numerator, denominator * Nat.pow 2 exponent.toNat)
      else (numerator * Nat.pow 2 (-exponent).toNat, denominator)
    let (top, bottom) := quotient guess
    let fitted := if top < Nat.pow 2 53 * bottom then guess else guess + 1
    let exponent := max fitted (-1074)
    if exponent > 971 then 0x7ff0000000000000
    else
      let (top, bottom) := quotient exponent
      min ((exponent + 1074).toNat * Nat.pow 2 52 + roundHalfEven top bottom) 0x7ff0000000000000

def nearest (negative : Bool) (numerator denominator : Nat) : Float :=
  let bits := nearestBits numerator denominator
  Float.ofBits (UInt64.ofNat (if negative then Nat.pow 2 63 + bits else bits))

def ofScientific (negative : Bool) (digits : Nat) (exponent : Int) : Float :=
  let size : Int := (Nat.toDigits 10 digits).length + exponent
  if digits = 0 || size < -330 then nearest negative 0 1
  else if 310 < size then nearest negative (Nat.pow 10 310) 1
  else if 0 ≤ exponent then nearest negative (digits * Nat.pow 10 exponent.toNat) 1
  else nearest negative digits (Nat.pow 10 (-exponent).toNat)

def ofInt (value : Int) : Float :=
  nearest (value < 0) value.natAbs 1

def isTooLarge (value : Int) : Bool :=
  nearestBits value.natAbs 1 = 0x7ff0000000000000

end ProcessDiagram.Decimal
