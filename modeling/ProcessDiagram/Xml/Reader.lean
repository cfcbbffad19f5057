import ProcessDiagram.Xml.Content
import ProcessDiagram.Xml.Document
import ProcessDiagram.Xml.Preamble

set_option autoImplicit false

namespace ProcessDiagram.Xml

namespace Reading

def readTargets : List (List Char) → Reading Unit
  | [] => pure ()
  | target :: rest => do
      readTarget target
      readTargets rest

def readRoot (root : Written) : Reading (Node ExpandedName) := do
  match ← readContent root with
  | [.element name attributes children] => return .element name attributes children
  | _ => refuse

-- Something left unread is worth refusing only where nothing else was an error.
def checkUnread (unread : List Char) : Reading Unit := do
  let found ← get
  if !unread.isEmpty && found.errors = 0 then refuse else pure ()

def readDocument (document : Document) : Reading (Node ExpandedName) := do
  readTargets document.before
  match document.type with
  | some type => readDocumentType type
  | none => pure ()
  readTargets document.between
  let root ← readRoot document.root
  readTargets document.after
  checkUnread document.unread
  return root

end Reading

-- Up to this amount entities may add text, and beyond it in proportion to the document.
def freeAllowance : Nat := 1000000

def Findings.initial (preamble : Preamble) : Findings where
  doctype := { standalone := preamble.standalone }
  allowance := max freeAllowance (5 * sizeOf preamble.content)

-- The limit of 10,000,000 octets for a text node or a value is left out: they may be of any length.
def read (text : String) : Option (Node ExpandedName) := do
  let preamble ← Preamble.read? text.toList
  let document ← Document.scan? preamble.content
  let (root, found) ← (Reading.readDocument document).run (Findings.initial preamble)
  if found.flawed then none else some root

end ProcessDiagram.Xml
