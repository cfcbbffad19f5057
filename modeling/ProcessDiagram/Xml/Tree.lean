set_option autoImplicit false

namespace ProcessDiagram.Xml

structure QualifiedName where
  qualifier : String
  localName : String
deriving DecidableEq, Repr

def QualifiedName.chars (name : QualifiedName) : List Char :=
  if name.qualifier = "" then name.localName.toList
  else name.qualifier.toList ++ ':' :: name.localName.toList

structure ExpandedName where
  space : String
  localName : String
deriving DecidableEq, Repr

def ExpandedName.text (name : ExpandedName) : String :=
  if name.space = "" then name.localName else "\x7b" ++ name.space ++ "\x7d" ++ name.localName

inductive Node (Name : Type) where
  | element (name : Name) (attributes : List (Name × String)) (children : List (Node Name))
  | text (value : String)
  | comment (value : String)
  | instruction (target data : String)

namespace Node

variable {Name : Type}

def isText : Node Name → Bool
  | .text _ => true
  | _ => false

def children : Node Name → List (Node Name)
  | .element _ _ children => children
  | _ => []

def leadingText : List (Node Name) → Option String
  | .text value :: rest => some (value ++ (leadingText rest).getD "")
  | _ => none

def text? (node : Node Name) : Option String :=
  leadingText node.children

def name? : Node Name → Option Name
  | .element name _ _ => some name
  | _ => none

end Node

end ProcessDiagram.Xml
