import ProcessDiagram.Xml.DocumentType.Basic
import ProcessDiagram.Xml.Entity
import ProcessDiagram.Xml.Tree

set_option autoImplicit false

namespace ProcessDiagram.Xml

structure EntityContent where
  nodes : List (Node ExpandedName)
  size : Nat
  ids : List String

-- A document that breaks a rule of the language is refused at once. Of all other complaints the last one
-- decides: a document is refused in the end when that is an error and no warning.
structure Findings where
  doctype : Doctype := {}
  errors : Nat := 0
  warnings : Nat := 0
  flawed : Bool := false
  ids : List String := []
  entityIds : List String := []
  contents : Table (List Char) EntityContent := []
  added : Nat := 0
  allowance : Nat := 0

abbrev Reading := StateT Findings Option

namespace Reading

def refuse {Value : Type} : Reading Value :=
  fun _ => none

def lift {Value : Type} (value : Option Value) : Reading Value :=
  fun found => value.map fun value => (value, found)

def maxComplaints : Nat := 100

def reportError : Reading Unit :=
  modify fun found =>
    { found with
      errors := found.errors + 1
      flawed := if found.errors < maxComplaints then true else found.flawed }

def warn : Reading Unit :=
  modify fun found =>
    { found with
      warnings := found.warnings + 1
      flawed := if found.warnings < maxComplaints then false else found.flawed }

def reportErrorIf (wrong : Bool) : Reading Unit :=
  if wrong then reportError else pure ()

def changeDoctype (change : Doctype → Doctype) : Reading Unit :=
  modify fun found => { found with doctype := change found.doctype }

def referenceSize : Nat := 20

def charge (size : Nat) : Reading Unit := do
  let found ← get
  let added := found.added + size + referenceSize
  if found.allowance < added then refuse else set { found with added }

-- An entity may be unknown only where declarations may exist that were not read.
def missEntity : Reading Unit := do
  let found ← get
  if found.doctype.incomplete && !found.doctype.standalone then reportError else refuse

def valueOf (expand : List Char → Reading (List Char)) : List Piece → Reading (List Char)
  | [] => pure []
  | .literal c :: rest => do
      let others ← valueOf expand rest
      return (if isSpace c then ' ' else c) :: others
  | .escaped c :: rest => do
      let others ← valueOf expand rest
      return c :: others
  | .entity name :: rest => do
      let first ← match predefined? name with
        | some c => pure [c]
        | none => expand name
      let others ← valueOf expand rest
      return first ++ others

def entityValue : Nat → List Char → Reading (List Char)
  | 0, _ => refuse
  | fuel + 1, name => do
      let found ← get
      match Table.get? name found.doctype.entities with
      | some (.internal text) =>
          charge (sizeOf text)
          if text.contains '<' then refuse
          else valueOf (entityValue fuel) (← lift (pieces? text))
      | some _ => refuse
      | none =>
          missEntity
          return []

def readValue (depth : Nat) (kind : AttributeKind) (raw : List Char) : Reading (List Char) := do
  let pieces ← lift (pieces? (Text.unifyLineEnds raw))
  let value ← valueOf (entityValue depth) pieces
  return kind.normalize value

end Reading

end ProcessDiagram.Xml
