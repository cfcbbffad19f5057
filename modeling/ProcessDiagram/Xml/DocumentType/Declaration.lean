import ProcessDiagram.Xml.DocumentType.ContentModel

set_option autoImplicit false

namespace ProcessDiagram.Xml

inductive AttributeKind where
  | text
  | id
  | name
  | names
  | token
  | tokens
deriving DecidableEq, Repr

structure AttributeDefinition where
  name : List Char
  kind : AttributeKind
  preset : Option (List Char)
deriving DecidableEq, Repr

inductive EntityDefinition where
  | internal (raw : List Char)
  | external (address : List Char)
  | unparsed
deriving DecidableEq, Repr

inductive Declaration where
  | element (name : List Char)
  | attributes (element : List Char) (definitions : List AttributeDefinition)
  | entity (name : List Char) (definition : EntityDefinition)
  | parameter (name : List Char) (definition : EntityDefinition)
  | dataFormat (name : List Char)
  | instruction (target : List Char)
  | comment
  | parameterReference
  | unnamed
deriving DecidableEq, Repr

structure DocumentType where
  hasExternal : Bool
  declarations : List Declaration
deriving DecidableEq, Repr

def isPublicChar (c : Char) : Bool :=
  c.isAlphanum || " \n\r-'()+,./:=?;!*#@$_%".toList.contains c

def scanPublic? (input : List Char) : Option (List Char) := do
  let rest ← afterWord? "PUBLIC".toList input
  let (value, rest) ← scanQuoted? (← afterSpaces? rest)
  if value.all isPublicChar then some rest else none

def scanExternal? (input : List Char) : Option (List Char × List Char) :=
  match afterWord? "SYSTEM".toList input with
  | some rest => (afterSpaces? rest).bind scanQuoted?
  | none => ((scanPublic? input).bind afterSpaces?).bind scanQuoted?

def closeDeclaration? (input : List Char) : Option (List Char) :=
  afterWord? ['>'] (skipSpaces input)

def scanElement? (input : List Char) : Option (Declaration × List Char) := do
  let (name, rest) ← scanName? (← afterSpaces? input)
  let rest ← closeDeclaration? (← ContentModel.skip? (← afterSpaces? rest))
  some (.element name, rest)

def scanDataFormat? (input : List Char) : Option (Declaration × List Char) := do
  let (name, rest) ← scanName? (← afterSpaces? input)
  let rest ← afterSpaces? rest
  let rest ← ((scanExternal? rest).map Prod.snd).or (scanPublic? rest)
  some (.dataFormat name, ← closeDeclaration? rest)

def skipChoices (scan : List Char → Option (List Char × List Char)) : Nat → List Char →
    Option (List Char)
  | 0, _ => none
  | fuel + 1, input => do
      let (_, rest) ← scan (skipSpaces input)
      match skipSpaces rest with
      | '|' :: rest => skipChoices scan fuel rest
      | ')' :: rest => some rest
      | _ => none

def scanListed? (kind : AttributeKind) (scan : List Char → Option (List Char × List Char))
    (input : List Char) : Option (AttributeKind × List Char) := do
  let rest ← afterWord? ['('] input
  let rest ← skipChoices scan (rest.length + 1) rest
  some (kind, rest)

-- The words for kinds; one that another begins with comes after it.
def kindWords : List (String × AttributeKind) :=
  [("CDATA", .text), ("IDREFS", .names), ("IDREF", .name), ("ID", .id), ("ENTITY", .name),
   ("ENTITIES", .names), ("NMTOKENS", .tokens), ("NMTOKEN", .token)]

def scanKind? (input : List Char) : Option (AttributeKind × List Char) :=
  match kindWords.findSome? fun (word, kind) =>
    (afterWord? word.toList input).map fun rest => (kind, rest) with
  | some found => some found
  | none =>
      match afterWord? "NOTATION".toList input with
      | some rest => (afterSpaces? rest).bind (scanListed? .name scanName?)
      | none => scanListed? .tokens scanMarks? input

def scanPreset? (input : List Char) : Option (Option (List Char) × List Char) :=
  match (afterWord? "#REQUIRED".toList input).or (afterWord? "#IMPLIED".toList input) with
  | some rest => some (none, rest)
  | none =>
      let value := match afterWord? "#FIXED".toList input with
        | some rest => (afterSpaces? rest).bind scanValue?
        | none => scanValue? input
      value.map fun (value, rest) => (some value, rest)

def scanDefinition? (input : List Char) : Option (AttributeDefinition × List Char) := do
  let (name, rest) ← scanName? input
  let (kind, rest) ← scanKind? (← afterSpaces? rest)
  let (preset, rest) ← scanPreset? (← afterSpaces? rest)
  some (⟨name, kind, preset⟩, rest)

def scanDefinitions : Nat → List Char → Option (List AttributeDefinition × List Char)
  | 0, _ => none
  | fuel + 1, input =>
      match skipSpaces input with
      | '>' :: rest => some ([], rest)
      | spaced =>
          if startsWithSpace input then do
            let (definition, rest) ← scanDefinition? spaced
            let (others, rest) ← scanDefinitions fuel rest
            some (definition :: others, rest)
          else none

def scanAttributeList? (input : List Char) : Option (Declaration × List Char) := do
  let (element, rest) ← scanName? (← afterSpaces? input)
  let (definitions, rest) ← scanDefinitions (rest.length + 1) rest
  some (.attributes element definitions, rest)

def scanAddress? (input : List Char) : Option (List Char × List Char) :=
  (scanExternal? input).filter fun (address, _) => !address.contains '#'

def scanParameterDefinition? (input : List Char) : Option (EntityDefinition × List Char) :=
  match scanQuoted? input with
  | some (raw, rest) => some (.internal raw, rest)
  | none => (scanAddress? input).map fun (address, rest) => (.external address, rest)

def scanFormat? (input : List Char) : Option (List Char) := do
  let rest ← afterWord? "NDATA".toList (← afterSpaces? input)
  let rest ← afterSpaces? rest
  some (((scanName? rest).map Prod.snd).getD rest)

def scanEntityDefinition? (input : List Char) : Option (EntityDefinition × List Char) := do
  let (definition, rest) ← scanParameterDefinition? input
  match definition, scanFormat? rest with
  | .external _, some rest => some (.unparsed, rest)
  | definition, _ => some (definition, rest)

def scanEntity? (input : List Char) : Option (Declaration × List Char) := do
  match ← afterSpaces? input with
  | '%' :: rest =>
      let (name, rest) ← scanName? (← afterSpaces? rest)
      let (definition, rest) ← scanParameterDefinition? (← afterSpaces? rest)
      some (.parameter name definition, ← closeDeclaration? rest)
  | rest =>
      let (name, rest) ← scanName? rest
      let (definition, rest) ← scanEntityDefinition? (← afterSpaces? rest)
      some (.entity name definition, ← closeDeclaration? rest)

def scanParameterReference? (input : List Char) : Option (Declaration × List Char) := do
  let (_, rest) ← scanName? input
  let rest ← afterWord? [';'] rest
  some (.parameterReference, rest)

def scanKeyword? (input : List Char) : Option (Declaration × List Char) :=
  [("--", scanRemark?), ("ELEMENT", scanElement?), ("ENTITY", scanEntity?),
    ("ATTLIST", scanAttributeList?), ("NOTATION", scanDataFormat?)].findSome?
      fun (word, scan) => (afterWord? word.toList input).bind scan
where
  scanRemark? (input : List Char) : Option (Declaration × List Char) :=
    (scanComment? input).map fun (_, rest) => (.comment, rest)

def mayBeKeyword : List Char → Bool
  | [] => false
  | c :: _ => ['-', 'A', 'E', 'N'].contains c

def scanDeclaration? : List Char → Option (Declaration × List Char)
  | '<' :: '!' :: rest => if mayBeKeyword rest then scanKeyword? rest else some (.unnamed, rest)
  | '<' :: '?' :: rest =>
      (scanInstruction? rest).map fun ((target, _), rest) => (.instruction target, rest)
  | '%' :: rest => scanParameterReference? rest
  | _ => none

def scanDeclarations : Nat → List Char → Option (List Declaration × List Char)
  | 0, _ => none
  | fuel + 1, input =>
      match skipSpaces input with
      | [] => none
      | ']' :: rest => some ([], rest)
      | spaced => do
          let (declaration, rest) ← scanDeclaration? spaced
          let (others, rest) ← scanDeclarations fuel rest
          some (declaration :: others, rest)

namespace DocumentType

def scanSubset? (hasExternal : Bool) (input : List Char) : Option (DocumentType × List Char) :=
  match input with
  | '[' :: rest => do
      let (declarations, rest) ← scanDeclarations (rest.length + 1) rest
      some (⟨hasExternal, declarations⟩, ← closeDeclaration? rest)
  | rest => (closeDeclaration? rest).map fun rest => (⟨hasExternal, []⟩, rest)

def scan? (input : List Char) : Option (DocumentType × List Char) := do
  let (_, rest) ← scanName? (← afterSpaces? input)
  match scanExternal? (skipSpaces rest) with
  | some (_, rest) => scanSubset? true (skipSpaces rest)
  | none => scanSubset? false (skipSpaces rest)

end DocumentType

end ProcessDiagram.Xml
