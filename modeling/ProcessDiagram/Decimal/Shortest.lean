import ProcessDiagram.Decimal.Rounding

set_option autoImplicit false

namespace ProcessDiagram.Decimal

-- The numbers that round to `mantissa * 2 ^ exponent` reach from the first to the second bound, in
-- units of a quarter of the last binary place; below a power of two the step down is half as long.
def halfway (mantissa : Nat) (exponent : Int) : Nat × Nat :=
  (if mantissa = Nat.pow 2 52 && -1074 < exponent then 4 * mantissa - 1 else 4 * mantissa - 2,
    4 * mantissa + 2)

-- Whether `units` of the decimal place `place` round to the double; a bound does for an even one.
def roundsBack (mantissa : Nat) (exponent : Int) (units : Nat) (place : Int) : Bool :=
  let (low, high) := halfway mantissa exponent
  let decimal := units * (if 0 ≤ place then Nat.pow 10 place.toNat else 1) *
    (if exponent - 2 < 0 then Nat.pow 2 (2 - exponent).toNat else 1)
  let unit := (if place < 0 then Nat.pow 10 (-place).toNat else 1) *
    (if 0 ≤ exponent - 2 then Nat.pow 2 (exponent - 2).toNat else 1)
  if mantissa % 2 = 0 then low * unit ≤ decimal && decimal ≤ high * unit
  else low * unit < decimal && decimal < high * unit

def neighbour (mantissa : Nat) (exponent place : Int) : Nat × Bool :=
  let numerator := mantissa * (if 0 ≤ exponent then Nat.pow 2 exponent.toNat else 1) *
    (if place < 0 then Nat.pow 10 (-place).toNat else 1)
  let denominator := (if exponent < 0 then Nat.pow 2 (-exponent).toNat else 1) *
    (if 0 ≤ place then Nat.pow 10 place.toNat else 1)
  let below := numerator / denominator
  (below, roundHalfEven numerator denominator ≠ below)

def searchFrom (mantissa : Nat) (exponent : Int) : Nat → Int → Nat × Int
  | 0, place => ((neighbour mantissa exponent place).1, place)
  | fuel + 1, place =>
      let (below, preferAbove) := neighbour mantissa exponent place
      let belowFits := roundsBack mantissa exponent below place
      let aboveFits := roundsBack mantissa exponent (below + 1) place
      if belowFits && !(aboveFits && preferAbove) then (below, place)
      else if aboveFits then (below + 1, place)
      else searchFrom mantissa exponent fuel (place - 1)

def topPlace (mantissa : Nat) (exponent : Int) : Int :=
  (mantissa.log2 + exponent) * 30103 / 100000 + 2

def shortest (mantissa : Nat) (exponent : Int) : Nat × Int :=
  searchFrom mantissa exponent 24 (topPlace mantissa exponent)

structure Style where
  lowPoint : Int
  highPoint : Int
  exponentDigits : Nat

-- Positional from one ten-thousandth to below ten to the sixteenth, else with an exponent.
def Style.general : Style :=
  ⟨-3, 16, 2⟩

def dropZeros : List Char → Int → List Char × Int
  | reversed, place =>
      let kept := reversed.dropWhile (· = '0')
      (kept, place + (reversed.length - kept.length : Nat))

def Style.write (style : Style) (digits : List Char) (place : Int) : List Char :=
  let point : Int := digits.length + place
  if style.lowPoint ≤ point && point ≤ style.highPoint then
    if point ≤ 0 then '0' :: '.' :: List.replicate (-point).toNat '0' ++ digits
    else if 0 ≤ place then digits ++ List.replicate place.toNat '0' ++ ['.', '0']
    else digits.take point.toNat ++ '.' :: digits.drop point.toNat
  else
    let power := point - 1
    digits.take 1 ++ (if digits.length ≤ 1 then [] else '.' :: digits.drop 1) ++
      'e' :: (if power < 0 then '-' else '+') :: paddedDigits style.exponentDigits power.natAbs

def Style.text (style : Style) : Binary → List Char
  | .finite negative mantissa exponent =>
      if mantissa = 0 then signed negative ['0', '.', '0']
      else
        let (units, place) := shortest mantissa exponent
        let (reversed, place) := dropZeros (Nat.toDigits 10 units).reverse place
        signed negative (style.write reversed.reverse place)
  | .infinite negative => signed negative ['i', 'n', 'f']
  | .undefined => ['n', 'a', 'n']

def shortestText (value : Float) : String :=
  String.ofList (Style.general.text (Binary.ofFloat value))

end ProcessDiagram.Decimal
