import ProcessDiagram.Table
import ProcessDiagram.Text.Basic
import ProcessDiagram.Xml.DocumentType.Declaration
import ProcessDiagram.Xml.Name

set_option autoImplicit false

namespace ProcessDiagram.Xml

inductive Entity where
  | internal (text : List Char)
  | external (address : List Char)
  | unparsed
deriving DecidableEq, Repr

structure AttributeRule where
  name : QualifiedName
  kind : AttributeKind
  preset : Option (List Char)
deriving DecidableEq, Repr

structure Doctype where
  standalone : Bool := false
  incomplete : Bool := false
  entities : Table (List Char) Entity := []
  elements : List (List Char) := []
  dataFormats : List (List Char) := []
  attributes : Table (List Char) (List AttributeRule) := []
deriving Repr

def wordsOf (value : List Char) : List (List Char) :=
  (Text.splitAtMark ' ' value).filter (!·.isEmpty)

def isMarks (value : List Char) : Bool :=
  !value.isEmpty && value.all isNameMark

namespace AttributeKind

def normalize (kind : AttributeKind) (value : List Char) : List Char :=
  if kind = .text then value else List.intercalate [' '] (wordsOf value)

def accepts (kind : AttributeKind) (value : List Char) : Bool :=
  let words := wordsOf value
  match kind with
  | .text => true
  | .id | .name => isName value
  | .names => !words.isEmpty && words.all isName
  | .token => isMarks value
  | .tokens => !words.isEmpty && words.all isMarks

end AttributeKind

namespace Doctype

def rules (doctype : Doctype) (element : List Char) : List AttributeRule :=
  (Table.get? element doctype.attributes).getD []

-- Of several declarations of one entity the first counts.
def addEntity (doctype : Doctype) (name : List Char) (entity : Entity) : Doctype :=
  if (Table.get? name doctype.entities).isSome then doctype
  else { doctype with entities := Table.put name entity doctype.entities }

def addRule (doctype : Doctype) (element : List Char) (rule : AttributeRule) : Doctype :=
  { doctype with
    attributes := Table.put element (doctype.rules element ++ [rule]) doctype.attributes }

end Doctype

end ProcessDiagram.Xml
