import ProcessDiagram.Description.Basic
import ProcessDiagram.Document.CoordinateText
import ProcessDiagram.Document.Label
import ProcessDiagram.Document.Vocabulary
import ProcessDiagram.Xml.Character
import ProcessDiagram.Xml.Printer

set_option autoImplicit false

namespace ProcessDiagram.Document

open Xml (QualifiedName filterText hasForbidden)

abbrev Element := Xml.Node QualifiedName

-- What can stand in the place of a text that a document says about itself.
inductive NoText where
  | nothing
  | truth
  | whole
  | decimal
  | list
  | record
deriving DecidableEq, Repr

def NoText.name : NoText → String
  | .nothing => "NoneType"
  | .truth => "bool"
  | .whole => "int"
  | .decimal => "float"
  | .list => "list"
  | .record => "dict"

inductive Stamp where
  | text (value : String)
  | other (kind : NoText)
deriving DecidableEq, Repr

def Stamp.shown : Stamp → String
  | .text value => value
  | .other _ => ""

structure Options where
  targetNamespace : Stamp := .text "http://bpmn.io/schema/bpmn"
  exporter : Stamp := .text "bpmn-mapgen"
  exporterVersion : Stamp := .text "1.0"
  includeDocumentation : Bool := true
deriving DecidableEq, Repr

-- Three texts, as they are meant to be.
def Options.ofTexts (targetNamespace exporter exporterVersion : String)
    (includeDocumentation : Bool) : Options :=
  ⟨.text targetNamespace, .text exporter, .text exporterVersion, includeDocumentation⟩

inductive Failure where
  | unknownNode (flow : Nat) (id : String)
  | forbiddenCharacter
  | noText (kind : NoText)
  | withoutPosition (label elementId : String)
  | withoutRoute (flowId : String)
deriving DecidableEq, Repr

def Failure.message : Failure → String
  | .unknownNode flow id =>
      "Sequence flow " ++ toString flow ++ " references unknown node '" ++ id ++ "'"
  | .forbiddenCharacter =>
      "All strings must be XML compatible: Unicode or ASCII, no NULL bytes or control characters"
  | .noText kind => "Argument must be bytes or unicode, got '" ++ kind.name ++ "'"
  | .withoutPosition label elementId =>
      "Node '" ++ label ++ "' (" ++ elementId ++ ") has no layout position"
  | .withoutRoute flowId => "Sequence flow '" ++ flowId ++ "' has no route"

structure Subject where
  processId : String
  token : String
  name : String
  documentation : String
  graph : Graph
  diagram : Diagram Float

structure Flow where
  id : String
  edge : Edge
  source : String
  target : String

def flowId (token : String) (index : Nat) : String :=
  "Flow_" ++ token ++ "_" ++ toString (index + 1)

def flowOf (graph : Graph) (token : String) (entry : Edge × Nat) : Except Failure Flow :=
  let (edge, index) := entry
  match graph.node? edge.source, graph.node? edge.target with
  | some source, some target =>
      .ok ⟨flowId token index, edge, source.elementId, target.elementId⟩
  | none, _ => .error (.unknownNode (index + 1) edge.source)
  | _, none => .error (.unknownNode (index + 1) edge.target)

def flowsOf (graph : Graph) (token : String) : Except Failure (List Flow) :=
  graph.edges.zipIdx.mapM (flowOf graph token)

-- The texts that are written as they are, in the order in which they are looked at.
def rawTexts (options : Options) (subject : Subject) : List Stamp :=
  [.text subject.token, options.targetNamespace, options.exporter, options.exporterVersion,
    .text subject.processId] ++ subject.graph.nodes.map fun node => .text node.elementId

def checkRaw : Stamp → Except Failure Unit
  | .text value => if hasForbidden value then .error .forbiddenCharacter else .ok ()
  | .other kind => .error (.noText kind)

def positionOf (diagram : Diagram Float) (node : Node) : Except Failure (Node × Box Float) :=
  match Table.get? node.id diagram.boxes with
  | some box => .ok (node, box)
  | none => .error (.withoutPosition node.label node.elementId)

structure Path where
  first : Point Float
  second : Point Float
  others : List (Point Float)

def Path.points (path : Path) : List (Point Float) :=
  path.first :: path.second :: path.others

def pathOf (diagram : Diagram Float) (entry : Flow × Nat) : Except Failure (Flow × Path) :=
  let (flow, index) := entry
  match Table.get? (index : Int) diagram.routes with
  | some (first :: second :: others) => .ok (flow, ⟨first, second, others⟩)
  | _ => .error (.withoutRoute flow.id)

def documentationElements (options : Options) (text : String) : List Element :=
  if options.includeDocumentation && text ≠ "" then
    [.element (model "documentation") [] [.text (filterText text)]]
  else []

def reference (name : String) (flow : Flow) : Element :=
  .element (model name) [] [.text flow.id]

def nodeElement (options : Options) (flows : List Flow) (node : Node) : Element :=
  .element (model node.kind.name)
    [plain "id" node.elementId, plain "name" (filterText node.label)]
    (documentationElements options node.documentation ++
      (flows.filter fun flow => flow.edge.target = node.id).map (reference "incoming") ++
      (flows.filter fun flow => flow.edge.source = node.id).map (reference "outgoing"))

def flowElement (flow : Flow) : Element :=
  .element (model "sequenceFlow")
    ([plain "id" flow.id, plain "sourceRef" flow.source, plain "targetRef" flow.target] ++
      (flow.edge.label?.map fun label => plain "name" (filterText label)).toList) []

def processElement (options : Options) (subject : Subject) (flows : List Flow) : Element :=
  .element (model "process")
    [plain "id" subject.processId, plain "name" (filterText subject.name),
      plain "isExecutable" "false"]
    (documentationElements options subject.documentation ++
      subject.graph.nodes.map (nodeElement options flows) ++ flows.map flowElement)

def boundsElement (bounds : Box Float) : Element :=
  .element (box "Bounds")
    [plain "x" (coordinateText bounds.x), plain "y" (coordinateText bounds.y),
      plain "width" (coordinateText bounds.width), plain "height" (coordinateText bounds.height)] []

def labelElement (bounds : Box Float) : Element :=
  .element (diagram "BPMNLabel") [] [boundsElement bounds]

def shapeElement (entry : Node × Box Float) : Element :=
  let (node, bounds) := entry
  .element (diagram "BPMNShape")
    ([plain "id" (node.elementId ++ "_di"), plain "bpmnElement" node.elementId] ++
      if node.kind = .exclusiveGateway then [plain "isMarkerVisible" "true"] else [])
    [boundsElement bounds, labelElement (nodeLabel node.kind bounds)]

def pointElement (position : Point Float) : Element :=
  .element (point "waypoint")
    [plain "x" (coordinateText position.x), plain "y" (coordinateText position.y)] []

def edgeElement (entry : Flow × Path) : Element :=
  let (flow, path) := entry
  .element (diagram "BPMNEdge")
    [plain "id" (flow.id ++ "_di"), plain "bpmnElement" flow.id]
    (path.points.map pointElement ++
      if flow.edge.label?.isSome then
        [labelElement (flowLabel (labelAnchor path.first path.second path.others))]
      else [])

def diagramElement (subject : Subject) (shapes : List (Node × Box Float))
    (edges : List (Flow × Path)) : Element :=
  .element (diagram "BPMNDiagram") [plain "id" ("BPMNDiagram_" ++ subject.token)]
    [.element (diagram "BPMNPlane")
      [plain "id" ("BPMNPlane_" ++ subject.token), plain "bpmnElement" subject.processId]
      (shapes.map shapeElement ++ edges.map edgeElement)]

def tree (options : Options) (subject : Subject) : Except Failure Element := do
  let flows ← flowsOf subject.graph subject.token
  (rawTexts options subject).forM checkRaw
  let shapes ← subject.graph.nodes.mapM (positionOf subject.diagram)
  let edges ← flows.zipIdx.mapM (pathOf subject.diagram)
  return .element (model "definitions")
    (declarations ++
      [plain "id" ("Definitions_" ++ subject.token),
        plain "targetNamespace" options.targetNamespace.shown,
        plain "exporter" options.exporter.shown,
        plain "exporterVersion" options.exporterVersion.shown])
    [processElement options subject flows, diagramElement subject shapes edges]

def write (options : Options) (subject : Subject) : Except Failure String :=
  (tree options subject).map Xml.printDocument

end ProcessDiagram.Document
