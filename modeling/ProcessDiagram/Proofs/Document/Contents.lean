import ProcessDiagram.Document.Writer

set_option autoImplicit false

namespace ProcessDiagram.Document

open Xml (ExpandedName filterText)

abbrev ReadElement := Xml.Node ExpandedName

def isSpacing : ReadElement → Bool
  | .text value => value.toList.all Xml.isSpace
  | .element .. => true
  | _ => false

def elements? (element : ReadElement) : Option (List ReadElement) :=
  if element.children.all isSpacing then
    some (element.children.filter fun child => child.name?.isSome)
  else none

def values? (name : ExpandedName) (keys : List String) : ReadElement → Option (List String)
  | .element found attributes _ =>
      if found = name ∧ attributes.map Prod.fst = keys.map (⟨"", ·⟩) then
        some (attributes.map Prod.snd)
      else none
  | _ => none

def textIn? (name : ExpandedName) (element : ReadElement) : Option String :=
  match values? name [] element, element.children with
  | some _, [] => some ""
  | some _, [.text value] => some value
  | _, _ => none

def isNamed (name : ExpandedName) (element : ReadElement) : Bool :=
  element.name? = some name

def leading (name : ExpandedName) (elements : List ReadElement) :
    List ReadElement × List ReadElement :=
  (elements.takeWhile (isNamed name), elements.dropWhile (isNamed name))

-- A documentation that is left out counts as an empty one.
def documentationText (options : Options) (text : String) : String :=
  if options.includeDocumentation then filterText text else ""

def documentationName : ExpandedName := ⟨modelSpace, "documentation"⟩

def readDocumentation? (elements : List ReadElement) : Option (String × List ReadElement) :=
  match leading documentationName elements with
  | ([], rest) => some ("", rest)
  | ([one], rest) => (textIn? documentationName one).map fun text => (text, rest)
  | _ => none

structure NodeContents where
  kind : NodeKind
  elementId : String
  name : String
  documentation : String
  incoming : List String
  outgoing : List String
deriving DecidableEq, Repr

namespace NodeContents

def flowIds (subject : Subject) (chosen : Edge → Bool) : List String :=
  (subject.graph.edges.zipIdx.filter fun entry => chosen entry.1).map fun entry =>
    flowId subject.token entry.2

def ofNode (options : Options) (subject : Subject) (node : Node) : NodeContents where
  kind := node.kind
  elementId := node.elementId
  name := filterText node.label
  documentation := documentationText options node.documentation
  incoming := flowIds subject fun edge => edge.target = node.id
  outgoing := flowIds subject fun edge => edge.source = node.id

def nameOf (kind : NodeKind) : ExpandedName := ⟨modelSpace, kind.name⟩

def kind? (element : ReadElement) : Option NodeKind :=
  NodeKind.all.find? fun kind => isNamed (nameOf kind) element

def incomingName : ExpandedName := ⟨modelSpace, "incoming"⟩

def outgoingName : ExpandedName := ⟨modelSpace, "outgoing"⟩

def read? (element : ReadElement) : Option NodeContents := do
  let kind ← kind? element
  let [elementId, name] ← values? (nameOf kind) ["id", "name"] element | none
  let (documentation, references) ← readDocumentation? (← elements? element)
  let (incoming, outgoing) := leading incomingName references
  some {
    kind, elementId, name, documentation
    incoming := ← incoming.mapM (textIn? incomingName)
    outgoing := ← outgoing.mapM (textIn? outgoingName) }

end NodeContents

structure FlowContents where
  id : String
  source : String
  target : String
  name : Option String
deriving DecidableEq, Repr

namespace FlowContents

def ofEdge? (subject : Subject) (entry : Edge × Nat) : Option FlowContents := do
  let source ← subject.graph.node? entry.1.source
  let target ← subject.graph.node? entry.1.target
  some {
    id := flowId subject.token entry.2
    source := source.elementId
    target := target.elementId
    name := entry.1.label?.map filterText }

def flowName : ExpandedName := ⟨modelSpace, "sequenceFlow"⟩

def read? (element : ReadElement) : Option FlowContents :=
  match values? flowName ["id", "sourceRef", "targetRef"] element,
      values? flowName ["id", "sourceRef", "targetRef", "name"] element with
  | some [id, source, target], _ => some ⟨id, source, target, none⟩
  | _, some [id, source, target, name] => some ⟨id, source, target, some name⟩
  | _, _ => none

end FlowContents

structure BoundsContents where
  x : String
  y : String
  width : String
  height : String
deriving DecidableEq, Repr

namespace BoundsContents

def ofBox (box : Box Float) : BoundsContents :=
  ⟨coordinateText box.x, coordinateText box.y, coordinateText box.width, coordinateText box.height⟩

def read? (element : ReadElement) : Option BoundsContents := do
  let [x, y, width, height] ←
    values? ⟨boxSpace, "Bounds"⟩ ["x", "y", "width", "height"] element | none
  some ⟨x, y, width, height⟩

def readLabel? (element : ReadElement) : Option BoundsContents := do
  let _ ← values? ⟨diagramSpace, "BPMNLabel"⟩ [] element
  let [bounds] ← elements? element | none
  read? bounds

end BoundsContents

def pointTexts (position : Point Float) : String × String :=
  (coordinateText position.x, coordinateText position.y)

def waypointName : ExpandedName := ⟨pointSpace, "waypoint"⟩

def readPoint? (element : ReadElement) : Option (String × String) := do
  let [x, y] ← values? waypointName ["x", "y"] element | none
  some (x, y)

structure ShapeContents where
  id : String
  element : String
  marker : Option String
  bounds : BoundsContents
  label : BoundsContents
deriving DecidableEq, Repr

namespace ShapeContents

def ofNode? (subject : Subject) (node : Node) : Option ShapeContents := do
  let box ← Table.get? node.id subject.diagram.boxes
  some {
    id := node.elementId ++ "_di"
    element := node.elementId
    marker := if node.kind = .exclusiveGateway then some "true" else none
    bounds := .ofBox box
    label := .ofBox (nodeLabel node.kind box) }

def shapeName : ExpandedName := ⟨diagramSpace, "BPMNShape"⟩

def read? (element : ReadElement) : Option ShapeContents := do
  let (id, reference, marker) ←
    match values? shapeName ["id", "bpmnElement"] element,
        values? shapeName ["id", "bpmnElement", "isMarkerVisible"] element with
    | some [id, reference], _ => some (id, reference, none)
    | _, some [id, reference, marker] => some (id, reference, some marker)
    | _, _ => none
  let [bounds, label] ← elements? element | none
  some ⟨id, reference, marker, ← BoundsContents.read? bounds, ← BoundsContents.readLabel? label⟩

end ShapeContents

structure EdgeContents where
  id : String
  element : String
  points : List (String × String)
  label : Option BoundsContents
deriving DecidableEq, Repr

namespace EdgeContents

def ofEdge? (subject : Subject) (entry : Edge × Nat) : Option EdgeContents :=
  match Table.get? (entry.2 : Int) subject.diagram.routes with
  | some (first :: second :: others) =>
      some {
        id := flowId subject.token entry.2 ++ "_di"
        element := flowId subject.token entry.2
        points := (first :: second :: others).map pointTexts
        label := entry.1.label?.map fun _ => .ofBox (flowLabel (labelAnchor first second others)) }
  | _ => none

def edgeName : ExpandedName := ⟨diagramSpace, "BPMNEdge"⟩

def readLabel? : List ReadElement → Option (Option BoundsContents)
  | [] => some none
  | [label] => (BoundsContents.readLabel? label).map some
  | _ => none

def read? (element : ReadElement) : Option EdgeContents := do
  let [id, reference] ← values? edgeName ["id", "bpmnElement"] element | none
  let (points, labels) := leading waypointName (← elements? element)
  some ⟨id, reference, ← points.mapM readPoint?, ← readLabel? labels⟩

end EdgeContents

structure ProcessContents where
  id : String
  name : String
  documentation : String
  nodes : List NodeContents
  flows : List FlowContents
deriving DecidableEq, Repr

namespace ProcessContents

def ofSubject? (options : Options) (subject : Subject) : Option ProcessContents := do
  let flows ← subject.graph.edges.zipIdx.mapM (FlowContents.ofEdge? subject)
  some {
    id := subject.processId
    name := filterText subject.name
    documentation := documentationText options subject.documentation
    nodes := subject.graph.nodes.map (NodeContents.ofNode options subject)
    flows }

-- All nodes stand before all flows.
def read? (element : ReadElement) : Option ProcessContents := do
  let [id, name, "false"] ←
    values? ⟨modelSpace, "process"⟩ ["id", "name", "isExecutable"] element | none
  let (documentation, rest) ← readDocumentation? (← elements? element)
  let nodes := rest.takeWhile fun element => (NodeContents.kind? element).isSome
  let flows := rest.dropWhile fun element => (NodeContents.kind? element).isSome
  some ⟨id, name, documentation, ← nodes.mapM NodeContents.read?, ← flows.mapM FlowContents.read?⟩

end ProcessContents

structure DiagramContents where
  id : String
  planeId : String
  planeElement : String
  shapes : List ShapeContents
  edges : List EdgeContents
deriving DecidableEq, Repr

namespace DiagramContents

def ofSubject? (subject : Subject) : Option DiagramContents := do
  let shapes ← subject.graph.nodes.mapM (ShapeContents.ofNode? subject)
  let edges ← subject.graph.edges.zipIdx.mapM (EdgeContents.ofEdge? subject)
  some {
    id := "BPMNDiagram_" ++ subject.token
    planeId := "BPMNPlane_" ++ subject.token
    planeElement := subject.processId
    shapes, edges }

-- All shapes stand before all edges.
def read? (element : ReadElement) : Option DiagramContents := do
  let [id] ← values? ⟨diagramSpace, "BPMNDiagram"⟩ ["id"] element | none
  let [plane] ← elements? element | none
  let [planeId, planeElement] ←
    values? ⟨diagramSpace, "BPMNPlane"⟩ ["id", "bpmnElement"] plane | none
  let (shapes, edges) := leading ShapeContents.shapeName (← elements? plane)
  some {
    id, planeId, planeElement
    shapes := ← shapes.mapM ShapeContents.read?
    edges := ← edges.mapM EdgeContents.read? }

end DiagramContents

structure Contents where
  id : String
  targetNamespace : String
  exporter : String
  exporterVersion : String
  process : ProcessContents
  diagram : DiagramContents
deriving DecidableEq, Repr

namespace Contents

def ofSubject? (options : Options) (subject : Subject) : Option Contents := do
  some {
    id := "Definitions_" ++ subject.token
    targetNamespace := options.targetNamespace.shown
    exporter := options.exporter.shown
    exporterVersion := options.exporterVersion.shown
    process := ← ProcessContents.ofSubject? options subject
    diagram := ← DiagramContents.ofSubject? subject }

def read? (root : ReadElement) : Option Contents := do
  let [id, targetNamespace, exporter, exporterVersion] ← values? ⟨modelSpace, "definitions"⟩
    ["id", "targetNamespace", "exporter", "exporterVersion"] root | none
  let [process, diagram] ← elements? root | none
  some {
    id, targetNamespace, exporter, exporterVersion
    process := ← ProcessContents.read? process
    diagram := ← DiagramContents.read? diagram }

end Contents

end ProcessDiagram.Document
