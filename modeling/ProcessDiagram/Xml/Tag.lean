import ProcessDiagram.Text.Basic
import ProcessDiagram.Xml.DocumentType.Reader
import ProcessDiagram.Xml.Letter
import ProcessDiagram.Xml.Scope
import ProcessDiagram.Xml.Token

set_option autoImplicit false

namespace ProcessDiagram.Xml

structure Surroundings where
  scope : Scope := Scope.initial
  depth : Nat := 0
  inEntity : Bool := false
  nesting : Nat := Reading.maxNesting

structure TagAttribute where
  written : QualifiedName
  value : String

structure PlacedAttribute extends TagAttribute where
  space : Option String

namespace PlacedAttribute

def key (placed : PlacedAttribute) : ExpandedName :=
  ⟨placed.space.getD "", placed.written.localName⟩

def name (placed : PlacedAttribute) : ExpandedName :=
  match placed.space with
  | some space => ⟨space, placed.written.localName⟩
  | none => ⟨"", String.ofList placed.written.chars⟩

def isReservedId (placed : PlacedAttribute) : Bool :=
  placed.written = ⟨"xml", "id"⟩

def isId (placed : PlacedAttribute) (rules : List AttributeRule) : Bool :=
  placed.isReservedId ||
    (placed.space.isSome && rules.any fun rule =>
      rule.kind = .id && rule.name = placed.written)

end PlacedAttribute

structure Tag where
  name : ExpandedName
  attributes : List (ExpandedName × String)
  scope : Scope

namespace AttributeRule

def kindIn (rules : List AttributeRule) (name : QualifiedName) : AttributeKind :=
  ((rules.find? fun rule => rule.name = name).map AttributeRule.kind).getD .text

def preset? (rule : AttributeRule) : Option TagAttribute :=
  rule.preset.map fun value => ⟨rule.name, String.ofList value⟩

def fallback? (rule : AttributeRule) : Option (ExpandedName × String) := do
  let value ← rule.preset.filter rule.kind.accepts
  if rule.name.qualifier = "" then some (⟨"", rule.name.localName⟩, String.ofList value) else none

end AttributeRule

namespace Reading

def readSpacing (name : QualifiedName) (value : String) : Reading Unit :=
  if name = ⟨"xml", "space"⟩ && value ≠ "default" && value ≠ "preserve" then warn else pure ()

def readWritten (place : Surroundings) (rules : List AttributeRule) (inner : Scope) :
    List RawAttribute → Reading (Scope × List TagAttribute)
  | [] => pure (inner, [])
  | (raw, rawValue) :: rest => do
      let name ← readName raw
      let kind := AttributeRule.kindIn rules name
      let value := String.ofList (← readValue place.nesting kind rawValue)
      readSpacing name value
      match declared? name with
      | some qualifier =>
          let inner ← declareSpace inner qualifier value
          readWritten place rules inner rest
      | none =>
          let (inner, others) ← readWritten place rules inner rest
          return (inner, ⟨name, value⟩ :: others)

def chargePreset (preset : TagAttribute) : Reading Unit :=
  charge (preset.written.localName.utf8ByteSize + preset.written.qualifier.utf8ByteSize +
    preset.value.utf8ByteSize)

def declarePresets (inner : Scope) : List TagAttribute → Reading Scope
  | [] => pure inner
  | preset :: rest =>
      match declared? preset.written with
      | none => declarePresets inner rest
      | some qualifier => do
          chargePreset preset
          if qualifier = "xml" || (Table.get? qualifier inner).isSome then
            declarePresets inner rest
          else declarePresets (inner ++ [(qualifier, preset.value)]) rest

def placeAttribute (scope : Scope) (one : TagAttribute) : Reading PlacedAttribute := do
  let space := scope.space? one.written
  reportErrorIf space.isNone
  return { one with space }

def placeAttributes (scope : Scope) : List TagAttribute → Reading (List PlacedAttribute)
  | [] => pure []
  | first :: rest => do
      let placed ← placeAttribute scope first
      let others ← placeAttributes scope rest
      return placed :: others

def checkDistinct (placed : List PlacedAttribute) : Reading Unit :=
  if !decide (placed.map fun one => one.written).Nodup then refuse
  else reportErrorIf (!decide (placed.map PlacedAttribute.key).Nodup)

-- Looks at preset attributes that are not written; one should not be meant under another name.
def checkPresets (scope : Scope) (placed : List PlacedAttribute) :
    List TagAttribute → Reading Unit
  | [] => pure ()
  | preset :: rest =>
      if (declared? preset.written).isSome then checkPresets scope placed rest
      else do
        let added ← placeAttribute scope preset
        match placed.find? fun other => other.key = added.key with
        | none =>
            chargePreset preset
            checkPresets scope (placed ++ [added]) rest
        | some other =>
            if other.written.qualifier = preset.written.qualifier then
              checkPresets scope placed rest
            else
              reportError
              chargePreset preset
              checkPresets scope (placed ++ [added]) rest

def addFallbacks (rules : List AttributeRule) (attributes : List (ExpandedName × String)) :
    List (ExpandedName × String) :=
  attributes ++ (rules.filterMap AttributeRule.fallback?).filter fun fallback =>
    !(attributes.any fun one => one.1 = fallback.1)

def registerId (id : String) : Reading Unit := do
  let found ← get
  reportErrorIf (id = "" || found.ids.contains id)
  modify fun found => { found with ids := id :: found.ids }

def noteId (id : String) : Reading Unit :=
  modify fun found =>
    { found with entityIds := (if id = "" then [] else [id]) ++ found.entityIds }

def readId (inEntity : Bool) (rules : List AttributeRule) (placed : PlacedAttribute) :
    Reading Unit :=
  if !placed.isId rules then pure ()
  else if inEntity then noteId placed.value
  else do
    reportErrorIf (placed.isReservedId &&
      !isListedName (Text.trimBoth isSpace placed.value.toList))
    registerId placed.value

def readIds (inEntity : Bool) (rules : List AttributeRule) : List PlacedAttribute → Reading Unit
  | [] => pure ()
  | first :: rest => do
      readId inEntity rules first
      readIds inEntity rules rest

def readTag (place : Surroundings) (raw : List Char) (attributes : List RawAttribute) :
    Reading Tag := do
  let name ← readName raw
  let found ← get
  let rules := found.doctype.rules raw
  let met := if isMet raw then rules else []
  let presets := met.filterMap AttributeRule.preset?
  let (inner, written) ← readWritten place met [] attributes
  let scope := place.scope.extend (← declarePresets inner presets)
  let placed ← placeAttributes scope written
  checkDistinct placed
  checkPresets scope placed presets
  let name ← expandName scope name
  readIds place.inEntity rules placed
  return ⟨name, addFallbacks rules (placed.map fun one => (one.name, one.value)), scope⟩

end Reading

end ProcessDiagram.Xml
