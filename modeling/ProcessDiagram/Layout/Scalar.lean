set_option autoImplicit false

namespace ProcessDiagram

-- Doubles are the numbers of the program; the laws of layouts hold of exact ones.
class Scalar (Number : Type) extends Add Number, Sub Number, Mul Number, Div Number, LT Number,
    LE Number where
  ofInt : Int → Number
  decideLT : ∀ first second : Number, Decidable (first < second)
  decideLE : ∀ first second : Number, Decidable (first ≤ second)

namespace Scalar

variable {Number : Type} [Scalar Number]

instance (first second : Number) : Decidable (first < second) :=
  decideLT first second

instance (first second : Number) : Decidable (first ≤ second) :=
  decideLE first second

def half (value : Number) : Number :=
  value / ofInt 2

def magnitude (value : Number) : Number :=
  if value < ofInt 0 then ofInt 0 - value else value

def least (first : Number) (others : List Number) : Number :=
  others.foldl (fun least value => if value < least then value else least) first

def greatest (first : Number) (others : List Number) : Number :=
  others.foldl (fun greatest value => if greatest < value then value else greatest) first

end Scalar

instance : Scalar Float where
  ofInt := Float.ofInt
  decideLT first second := inferInstanceAs (Decidable (first < second))
  decideLE first second := inferInstanceAs (Decidable (first ≤ second))

end ProcessDiagram
