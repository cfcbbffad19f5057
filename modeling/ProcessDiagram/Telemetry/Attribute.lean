import ProcessDiagram.Decimal.Shortest
import ProcessDiagram.Json.Basic
import ProcessDiagram.Text.Basic
import ProcessDiagram.Text.Quoted

set_option autoImplicit false

namespace ProcessDiagram

abbrev Attributes := List (String × Json)

namespace Attribute

mutual
def clean : Json → Json
  | .list items => .list (cleanItems items)
  | .record fields => .record (cleanFields fields)
  | value => value

def cleanItems : List Json → List Json
  | [] => []
  | item :: rest => clean item :: cleanItems rest

def cleanFields : List (String × Json) → List (String × Json)
  | [] => []
  | (key, value) :: rest =>
      if key = "" then cleanFields rest else (key, clean value) :: cleanFields rest
end

mutual
def dropped : Json → Nat
  | .list items => droppedItems items
  | .record fields => droppedFields fields
  | _ => 0

def droppedItems : List Json → Nat
  | [] => 0
  | item :: rest => dropped item + droppedItems rest

def droppedFields : List (String × Json) → Nat
  | [] => 0
  | (key, value) :: rest => (if key = "" then 1 else dropped value) + droppedFields rest
end

mutual
-- Lists stand in round brackets, one of a single member with a comma at its end.
def inspect : Json → String
  | .null => "None"
  | .bool value => if value then "True" else "False"
  | .integer value => toString value
  | .decimal value => Decimal.shortestText value
  | .text value => Text.quote value
  | .list [item] => "(" ++ inspect item ++ ",)"
  | .list items => "(" ++ inspectItems items ++ ")"
  | .record fields => "\x7b" ++ inspectFields fields ++ "\x7d"

def inspectItems : List Json → String
  | [] => ""
  | [item] => inspect item
  | item :: rest => inspect item ++ ", " ++ inspectItems rest

def inspectFields : List (String × Json) → String
  | [] => ""
  | [(key, value)] => Text.quote key ++ ": " ++ inspect value
  | (key, value) :: rest =>
      Text.quote key ++ ": " ++ inspect value ++ ", " ++ inspectFields rest
end

def display : Json → String
  | .text value => value
  | value => inspect value

mutual
-- Equal for the same attribute alone; a zero has no sign here, and fields have no order.
def identity : Json → String
  | .decimal value => Decimal.shortestText (value + 0)
  | .list items => "(" ++ String.join (identities items) ++ ")"
  | .record fields => "\x7b" ++ String.join (Text.sort (fieldIdentities fields)) ++ "\x7d"
  | value => inspect value

def identities : List Json → List String
  | [] => []
  | item :: rest => (identity item ++ ",") :: identities rest

def fieldIdentities : List (String × Json) → List String
  | [] => []
  | (key, value) :: rest =>
      (Text.quote key ++ ":" ++ identity value ++ ",") :: fieldIdentities rest
end

end Attribute

namespace Attributes

def sorted (fields : Table String Json) : Attributes :=
  (Text.sort fields.keys).map fun key => (key, (Table.get? key fields).getD .null)

def ofFields (fields : Table String Json) : Attributes :=
  sorted (Attribute.cleanFields fields)

def identity (attributes : Attributes) : List (String × String) :=
  attributes.map fun (key, value) => (key, Attribute.identity value)

end Attributes

end ProcessDiagram
