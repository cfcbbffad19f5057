import ProcessDiagram.Decimal.Rounding
import ProcessDiagram.Telemetry.Attribute

set_option autoImplicit false

namespace ProcessDiagram

inductive Amount where
  | whole (value : Int)
  | real (value : Float)

namespace Amount

inductive Failure where
  | noNumber (kind : String)
  | tooLarge
deriving DecidableEq, Repr

def Failure.message : Failure → String
  | .noNumber kind => "must be real number, not " ++ kind
  | .tooLarge => "int too large to convert to float"

def ofJson : Json → Except Failure Amount
  | .integer value => .ok (.whole value)
  | .decimal value => .ok (.real value)
  | .bool value => .ok (.whole (if value then 1 else 0))
  | value => .error (.noNumber value.kindName)

def toFloat : Amount → Float
  | .whole value => Decimal.ofInt value
  | .real value => value

def isTooLarge : Amount → Bool
  | .whole value => Decimal.isTooLarge value
  | .real _ => false

def isFinite : Amount → Bool
  | .whole _ => true
  | .real value => value.isFinite

-- Whole amounts are added exactly, and all others as doubles.
def add : Amount → Amount → Except Failure Amount
  | .whole first, .whole second => .ok (.whole (first + second))
  | first, second =>
      if first.isTooLarge || second.isTooLarge then .error .tooLarge
      else .ok (.real (first.toFloat + second.toFloat))

def isNegative : Amount → Bool
  | .whole value => value < 0
  | .real value => value < 0

def isWhole : Amount → Bool
  | .whole _ => true
  | .real _ => false

def text : Amount → String
  | .whole value => toString value
  | .real value => Decimal.shortestText value

end Amount

-- A collection adds what came since the last one to what was before, so that the order in which doubles
-- are added follows the collections.
structure MeasurePoint where
  attributes : Attributes
  count : Nat := 0
  collected : Amount := .whole 0
  recent : Amount := .whole 0

abbrev Measure := Table (List (String × String)) MeasurePoint

namespace MeasurePoint

def add (point : MeasurePoint) (amount : Amount) : Except Amount.Failure MeasurePoint := do
  return { point with count := point.count + 1, recent := ← point.recent.add amount }

def collect (point : MeasurePoint) : Except Amount.Failure MeasurePoint := do
  return { point with collected := ← point.recent.add point.collected, recent := .whole 0 }

end MeasurePoint

namespace Measure

def add (measure : Measure) (attributes : Attributes) (amount : Amount) :
    Except Amount.Failure Measure := do
  let key := attributes.identity
  let point ← ((Table.get? key measure).getD { attributes }).add amount
  return Table.put key point measure

def collect (measure : Measure) : Except Amount.Failure Measure :=
  measure.mapM fun (key, point) => do return (key, ← point.collect)

def points (measure : Measure) : List MeasurePoint :=
  measure.map Prod.snd

end Measure

end ProcessDiagram
