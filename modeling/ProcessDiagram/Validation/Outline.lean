import ProcessDiagram.Document.Vocabulary
import ProcessDiagram.Graph.Basic
import ProcessDiagram.Table
import ProcessDiagram.Text.Basic
import ProcessDiagram.Text.Word

set_option autoImplicit false

namespace ProcessDiagram.Validation

open Xml (ExpandedName)

abbrev Element := Xml.Node ExpandedName

def attribute? (key : String) : Element → Option String
  | .element _ attributes _ => attributes.lookup ⟨"", key⟩
  | _ => none

def modelName (name : String) : ExpandedName := ⟨Document.modelSpace, name⟩

def diagramName (name : String) : ExpandedName := ⟨Document.diagramSpace, name⟩

def boxName (name : String) : ExpandedName := ⟨Document.boxSpace, name⟩

def pointName (name : String) : ExpandedName := ⟨Document.pointSpace, name⟩

def childrenNamed (name : ExpandedName) (element : Element) : List Element :=
  element.children.filter fun child => child.name? = some name

def quotedValue? : List Char → Option (List Char × List Char)
  | mark :: rest =>
      if mark = '\'' || mark = '"' then
        match rest.dropWhile (· ≠ mark) with
        | _ :: after => some (rest.takeWhile (· ≠ mark), after)
        | [] => none
      else none
  | [] => none

def assignment? (chars : List Char) : Option ((List Char × List Char) × List Char) :=
  let start := chars.dropWhile Text.isBlank
  let word := start.takeWhile Text.isWordChar
  if start.length = chars.length || word.isEmpty then none
  else
    match (start.drop word.length).dropWhile Text.isBlank with
    | '=' :: rest =>
        (quotedValue? (rest.dropWhile Text.isBlank)).map fun (value, after) =>
          ((word, value), after)
    | _ => none

def assignments : Nat → List Char → List (List Char × List Char)
  | 0, _ => []
  | _, [] => []
  | fuel + 1, c :: rest =>
      match assignment? (c :: rest) with
      | some (found, after) => found :: assignments fuel after
      | none => assignments fuel rest

def instructionId? (data : String) : Option String :=
  let chars := ' ' :: data.toList
  let found := (assignments chars.length chars).reverse
  (found.lookup ['i', 'd']).map String.ofList

mutual
def idsOf : Element → List String
  | .element _ attributes children =>
      (attributes.lookup ⟨"", "id"⟩).toList ++ idsOfAll children
  | .instruction _ data => (instructionId? data).toList
  | _ => []

def idsOfAll : List Element → List String
  | [] => []
  | node :: rest => idsOf node ++ idsOfAll rest
end

structure FlowNode where
  kind : NodeKind
  incoming : List (Option String)
  outgoing : List (Option String)

def referencesOf (name : String) (element : Element) : List (Option String) :=
  (childrenNamed (modelName name) element).map Xml.Node.text?

def flowNodeOf (kind : NodeKind) (element : Element) : FlowNode :=
  ⟨kind, referencesOf "incoming" element, referencesOf "outgoing" element⟩

def flowNodesOfKind (process : Element) (kind : NodeKind) : List (String × FlowNode) :=
  (childrenNamed (modelName kind.name) process).map fun element =>
    ((attribute? "id" element).getD "", flowNodeOf kind element)

def flowNodes (process : Element) : Table String FlowNode :=
  Table.ofList (NodeKind.all.flatMap (flowNodesOfKind process))

structure Flow where
  id : Option String
  source : Option String
  target : Option String

def flows (process : Element) : List Flow :=
  (childrenNamed (modelName "sequenceFlow") process).map fun element =>
    ⟨attribute? "id" element, attribute? "sourceRef" element, attribute? "targetRef" element⟩

structure Outline where
  nodes : Table String FlowNode
  flows : List Flow

def Outline.ofProcess (process : Element) : Outline :=
  ⟨flowNodes process, Validation.flows process⟩

namespace Outline

def hasNode (outline : Outline) (reference : Option String) : Bool :=
  match reference with
  | some id => (Table.get? id outline.nodes).isSome
  | none => false

def hasFlow (outline : Outline) (reference : Option String) : Bool :=
  (outline.flows.map Flow.id).contains reference

def ofKind (outline : Outline) (kind : NodeKind) : List String :=
  (outline.nodes.filter fun entry => entry.2.kind = kind).map Prod.fst

def links (outline : Outline) : List (Option String × Option String) :=
  outline.flows.map fun flow => (flow.source, flow.target)

end Outline

end ProcessDiagram.Validation
