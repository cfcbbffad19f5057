import ProcessDiagram.Xml.Reading

set_option autoImplicit false

namespace ProcessDiagram.Xml.Reading

def startsReserved (target : List Char) : Bool :=
  ['x', 'm', 'l'].isPrefixOf (target.map Char.toLower)

def knownTargets : List (List Char) :=
  ["xml-stylesheet".toList, "xml-model".toList]

def readTarget (target : List Char) : Reading Unit := do
  if startsReserved target && !knownTargets.contains target then warn else pure ()
  reportErrorIf (target.contains ':')

def readOwnName (known : List (List Char)) (name : List Char) : Reading Unit := do
  reportErrorIf (name.contains ':')
  reportErrorIf (known.contains name)

def readElementName (name : List Char) : Reading Unit := do
  let found ← get
  reportErrorIf (found.doctype.elements.contains name)
  changeDoctype fun doctype => { doctype with elements := name :: doctype.elements }

def readDataFormat (name : List Char) : Reading Unit := do
  let found ← get
  readOwnName found.doctype.dataFormats name
  changeDoctype fun doctype => { doctype with dataFormats := name :: doctype.dataFormats }

def maxNesting : Nat := 19

def readPreset (definition : AttributeDefinition) : Reading (Option (List Char)) :=
  match definition.preset with
  | none => pure none
  | some raw => do
      let value ← readValue maxNesting definition.kind raw
      return some value

def addRule (element : List Char) (rule : AttributeRule) : Reading Unit := do
  let found ← get
  let rules := found.doctype.rules element
  if rules.any fun other => other.name = rule.name then warn
  else
    reportErrorIf (rule.kind = .id && rules.any fun other => other.kind = .id)
    changeDoctype (·.addRule element rule)

def readAttribute (element : List Char) (definition : AttributeDefinition) : Reading Unit := do
  let preset ← readPreset definition
  reportErrorIf (definition.name = "xml:id".toList && definition.kind ≠ .id)
  reportErrorIf (!preset.all definition.kind.accepts)
  addRule element ⟨splitName definition.name, definition.kind, preset⟩

def readAttributes (element : List Char) : List AttributeDefinition → Reading Unit
  | [] => pure ()
  | definition :: rest => do
      readAttribute element definition
      readAttributes element rest

def keptPiece : Piece → List Char
  | .literal c | .escaped c => [c]
  | .entity name => '&' :: name ++ [';']

-- What a parameter stands for is never read, so that there may be declarations in it.
def missParameter : Reading Unit := do
  changeDoctype fun doctype => { doctype with incomplete := true }
  missEntity

def readCut (input : List Char) : Reading Unit :=
  match scanName? input with
  | some (_, ';' :: _) => missParameter
  | _ => refuse

def readEntityText (raw : List Char) : Reading (List Char) := do
  let pieces ← lift (pieces? (Text.unifyLineEnds (raw.takeWhile (· ≠ '%'))))
  match raw.dropWhile (· ≠ '%') with
  | [] => pure ()
  | _ :: rest => readCut rest
  return pieces.flatMap keptPiece

def readDefinition : EntityDefinition → Reading Entity
  | .internal raw => do
      let text ← readEntityText raw
      return .internal text
  | .external address => pure (.external address)
  | .unparsed => pure .unparsed

def mayRedefine (c : Char) : Entity → Bool
  | .internal text =>
      (text = [c] && c ≠ '<' && c ≠ '&') ||
        text = "&#".toList ++ Nat.toDigits 10 c.toNat ++ [';'] ||
        text.map Char.toLower = "&#x".toList ++ Nat.toDigits 16 c.toNat ++ [';']
  | _ => false

def checkRepeated (name : List Char) : Entity → Reading Unit
  | .internal _ => do
      let found ← get
      match Table.get? name found.doctype.entities with
      | some (.internal _) | none => pure ()
      | some _ => refuse
  | _ => pure ()

def readEntity (name : List Char) (definition : EntityDefinition) : Reading Unit := do
  readOwnName [] name
  let entity ← readDefinition definition
  match predefined? name with
  | some c => if mayRedefine c entity then pure () else warn
  | none =>
      checkRepeated name entity
      changeDoctype (·.addEntity name entity)

def readParameter (name : List Char) (definition : EntityDefinition) : Reading Unit := do
  readOwnName [] name
  let _ ← readDefinition definition
  return ()

def readDeclaration : Declaration → Reading Unit
  | .element name => readElementName name
  | .attributes element definitions => readAttributes element definitions
  | .entity name definition => readEntity name definition
  | .parameter name definition => readParameter name definition
  | .dataFormat name => readDataFormat name
  | .instruction target => readTarget target
  | .comment | .unnamed => pure ()
  | .parameterReference => missParameter

def readDeclarations : List Declaration → Reading Unit
  | [] => pure ()
  | declaration :: rest => do
      readDeclaration declaration
      readDeclarations rest

def readDocumentType (type : DocumentType) : Reading Unit := do
  changeDoctype fun doctype => { doctype with incomplete := type.hasExternal }
  readDeclarations type.declarations

end ProcessDiagram.Xml.Reading
