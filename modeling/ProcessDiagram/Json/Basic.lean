import ProcessDiagram.Table

set_option autoImplicit false

namespace ProcessDiagram

inductive Json where
  | null
  | bool (value : Bool)
  | integer (value : Int)
  | decimal (value : Float)
  | text (value : String)
  | list (items : List Json)
  | record (fields : List (String × Json))
deriving Inhabited

namespace Json

def field (key : String) : Json → Json
  | .record fields => (Table.get? key fields).getD .null
  | _ => .null

def field? (key : String) : Json → Option Json
  | .record fields => Table.get? key fields
  | _ => none

def isNull : Json → Bool
  | .null => true
  | _ => false

def text? : Json → Option String
  | .text value => some value
  | _ => none

def items : Json → List Json
  | .list items => items
  | _ => []

def fields : Json → List (String × Json)
  | .record fields => fields
  | _ => []

def isTrue : Json → Bool
  | .null => false
  | .bool value => value
  | .integer value => value ≠ 0
  | .decimal value => value != 0
  | .text value => value ≠ ""
  | .list items => !items.isEmpty
  | .record fields => !fields.isEmpty

def strayField? (known : List String) (data : Json) : Option String :=
  (data.fields.map Prod.fst).find? fun key => !known.contains key

def kindName : Json → String
  | .null => "NoneType"
  | .bool _ => "bool"
  | .integer _ => "int"
  | .decimal _ => "float"
  | .text _ => "str"
  | .list _ => "list"
  | .record _ => "dict"

end Json

end ProcessDiagram
