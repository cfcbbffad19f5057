import ProcessDiagram.Xml.Address
import ProcessDiagram.Xml.Name
import ProcessDiagram.Xml.Reading

set_option autoImplicit false

namespace ProcessDiagram.Xml

def xmlSpace : String := "http://www.w3.org/XML/1998/namespace"

def declarationSpace : String := "http://www.w3.org/2000/xmlns/"

abbrev Scope := Table String String

def Scope.initial : Scope :=
  [("xml", xmlSpace)]

def Scope.extend (scope inner : Scope) : Scope :=
  inner.foldl (fun scope (qualifier, space) => Table.put qualifier space scope) scope

def declared? (name : QualifiedName) : Option String :=
  if name.qualifier = "xmlns" then some name.localName
  else if name = ⟨"", "xmlns"⟩ then some ""
  else none

def Scope.space? (scope : Scope) (name : QualifiedName) : Option String :=
  if name.qualifier = "" then some "" else Table.get? name.qualifier scope

namespace Reading

def readName (raw : List Char) : Reading QualifiedName := do
  let divided := divide raw
  reportErrorIf divided.flawed
  return divided.name

def readAddress (isDefault : Bool) (address : List Char) : Reading Unit :=
  if Address.isAbsolute address then pure ()
  else if !Address.isRelative address then reportError
  else if isDefault then warn
  else pure ()

def isReserved (qualifier space : String) : Bool :=
  space = xmlSpace || space = declarationSpace || qualifier = "xmlns" ||
    (qualifier ≠ "" && space = "")

def declareNew (inner : Scope) (qualifier space : String) : Reading Scope :=
  if (Table.get? qualifier inner).isSome then refuse
  else pure (inner ++ [(qualifier, space)])

def declareSpace (inner : Scope) (qualifier space : String) : Reading Scope := do
  if qualifier = "xml" then
    reportErrorIf (space ≠ xmlSpace)
    return inner
  else
    if qualifier = "" && space ≠ "" then readAddress true space.toList else pure ()
    if isReserved qualifier space then
      reportError
      return inner
    else
      if qualifier ≠ "" then readAddress false space.toList else pure ()
      declareNew inner qualifier space

def expandName (scope : Scope) (name : QualifiedName) : Reading ExpandedName :=
  if name.qualifier = "" then pure ⟨(Table.get? "" scope).getD "", name.localName⟩
  else
    match (Table.get? name.qualifier scope).filter (· ≠ "") with
    | some space => pure ⟨space, name.localName⟩
    | none => do
        reportError
        return ⟨"", String.ofList name.chars⟩

end Reading

end ProcessDiagram.Xml
