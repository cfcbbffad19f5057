import ProcessDiagram.Decimal.Shortest
import ProcessDiagram.Fault
import ProcessDiagram.Json.Basic
import ProcessDiagram.Text.Quoted

set_option autoImplicit false

namespace ProcessDiagram.Json

def maxDigits : Nat := 4300

def isOverlong (value : Int) : Bool :=
  Nat.pow 10 maxDigits ≤ value.natAbs

mutual
def hasOverlong : Json → Bool
  | .integer value => isOverlong value
  | .list items => anyOverlong items
  | .record fields => anyFieldOverlong fields
  | _ => false

def anyOverlong : List Json → Bool
  | [] => false
  | item :: rest => hasOverlong item || anyOverlong rest

def anyFieldOverlong : List (String × Json) → Bool
  | [] => false
  | (_, value) :: rest => hasOverlong value || anyFieldOverlong rest
end

mutual
def inspect : Json → String
  | .null => "None"
  | .bool value => if value then "True" else "False"
  | .integer value => toString value
  | .decimal value => Decimal.shortestText value
  | .text value => Text.quote value
  | .list items => "[" ++ inspectItems items ++ "]"
  | .record fields => "\x7b" ++ inspectFields fields ++ "\x7d"

def inspectItems : List Json → String
  | [] => ""
  | [item] => inspect item
  | item :: rest => inspect item ++ ", " ++ inspectItems rest

def inspectFields : List (String × Json) → String
  | [] => ""
  | [(key, value)] => Text.quote key ++ ": " ++ inspect value
  | (key, value) :: rest =>
      Text.quote key ++ ": " ++ inspect value ++ ", " ++ inspectFields rest
end

def display : Json → String
  | .text value => value
  | value => inspect value

-- What making a text of a value may raise: that the value is unfit for it, or anything else.
inductive Raised where
  | unfit
  | interruption (interruption : Interruption)
deriving DecidableEq, Repr

def convert (value : Json) : Except Raised String :=
  if value.hasOverlong then .error .unfit else .ok value.display

end ProcessDiagram.Json
