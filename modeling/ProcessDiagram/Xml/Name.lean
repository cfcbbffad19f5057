import ProcessDiagram.Xml.Scan
import ProcessDiagram.Xml.Tree

set_option autoImplicit false

namespace ProcessDiagram.Xml

structure DividedName where
  name : QualifiedName
  flawed : Bool
deriving DecidableEq, Repr

def undivided (raw : List Char) : QualifiedName :=
  ⟨"", String.ofList raw⟩

def divided (qualifier rest : List Char) : QualifiedName :=
  ⟨String.ofList qualifier, String.ofList rest⟩

def isLocalPart (part : List Char) : Bool :=
  part.head?.any isNameStart && !part.contains ':'

def divide (raw : List Char) : DividedName :=
  match breakOn [':'] raw with
  | none => ⟨undivided raw, false⟩
  | some (qualifier, rest) =>
      if isLocalPart qualifier && isLocalPart rest then ⟨divided qualifier rest, false⟩
      else ⟨undivided raw, true⟩

def splitName (raw : List Char) : QualifiedName :=
  match breakOn [':'] raw with
  | none => undivided raw
  | some (qualifier, rest) =>
      if qualifier.isEmpty || rest.isEmpty then undivided raw else divided qualifier rest

-- Whether a declaration of a name meets what bears that name.
def isMet (raw : List Char) : Bool :=
  (divide raw).name = splitName raw

end ProcessDiagram.Xml
