import ProcessDiagram.Graph.Path
import ProcessDiagram.Text.Basic
import ProcessDiagram.Validation.Outline
import ProcessDiagram.Validation.Report

set_option autoImplicit false

namespace ProcessDiagram.Validation

def when (condition : Bool) (issue : Issue) : List Issue :=
  if condition then [issue] else []

def problem (category : Category) (message : String) (elementId : Option String := none)
    (suggestion : Option String := none) : Issue :=
  ⟨.error, category, message, elementId, suggestion⟩

def shown (reference : Option String) : String :=
  reference.getD "None"

def duplicateIds (root : Element) : List Issue :=
  (Table.tally (idsOf root)).flatMap fun (id, count) =>
    when (1 < count) (problem .references
      ("Duplicate id '" ++ id ++ "' (" ++ toString count ++ " occurrences)") (some id))

def danglingEnd (outline : Outline) (flow : Flow) (name : String) (reference : Option String) :
    List Issue :=
  when (!outline.hasNode reference) (problem .references
    ("Sequence flow " ++ name ++ " '" ++ shown reference ++ "' does not resolve to a flow node")
    flow.id)

def danglingEnds (outline : Outline) : List Issue :=
  outline.flows.flatMap fun flow =>
    danglingEnd outline flow "sourceRef" flow.source ++
      danglingEnd outline flow "targetRef" flow.target

def danglingReference (outline : Outline) (id name : String) (reference : Option String) :
    List Issue :=
  when (!outline.hasFlow reference) (problem .references
    (name ++ " reference '" ++ shown reference ++ "' does not resolve to a sequence flow")
    (some id))

def danglingReferences (outline : Outline) : List Issue :=
  outline.nodes.flatMap fun (id, node) =>
    node.incoming.flatMap (danglingReference outline id "incoming") ++
      node.outgoing.flatMap (danglingReference outline id "outgoing")

def eventCounts (outline : Outline) : List Issue :=
  let starts := (outline.ofKind .startEvent).length
  when (starts ≠ 1) (problem .connectivity
      ("Expected exactly one start event, found " ++ toString starts)) ++
    when (outline.ofKind .endEvent).isEmpty (problem .connectivity "No end events found" none
      (some "Add at least one end event for process termination"))

def deadEnds (outline : Outline) : List Issue :=
  outline.nodes.flatMap fun (id, node) =>
    when (node.kind ≠ .startEvent && !(outline.flows.map Flow.target).contains (some id))
        (problem .connectivity (node.kind.name ++ " has no incoming sequence flow") (some id)) ++
      when (node.kind ≠ .endEvent && !(outline.flows.map Flow.source).contains (some id))
        (problem .connectivity (node.kind.name ++ " has no outgoing sequence flow") (some id))

def unreachable (outline : Outline) : List Issue :=
  match outline.ofKind .startEvent with
  | [start] =>
      let reached := Reach.reachable outline.links (some start)
      outline.nodes.flatMap fun (id, _) =>
        when (!reached.contains (some id))
          ⟨.warning, .connectivity, "Flow node is not reachable from the start event", some id,
            none⟩
  | _ => []

def shapeIssues (outline : Outline) (shape : Element) : List Issue :=
  let reference := attribute? "bpmnElement" shape
  when (!outline.hasNode reference) (problem .references
      ("Shape references unknown element '" ++ shown reference ++ "'") (attribute? "id" shape)) ++
    when (childrenNamed (boxName "Bounds") shape).isEmpty
      (problem .diagram "Shape has no bounds" (attribute? "id" shape))

def shapeCounts (outline : Outline) (shapes : List Element) : List Issue :=
  outline.nodes.flatMap fun (id, _) =>
    let count := (shapes.map (attribute? "bpmnElement")).count (some id)
    when (count ≠ 1) (problem .diagram
      ("Flow node has " ++ toString count ++ " shapes, expected 1") (some id))

def edgeIssues (outline : Outline) (edge : Element) : List Issue :=
  let reference := attribute? "bpmnElement" edge
  when (!outline.hasFlow reference) (problem .references
      ("Edge references unknown sequence flow '" ++ shown reference ++ "'")
      (attribute? "id" edge)) ++
    when ((childrenNamed (pointName "waypoint") edge).length < 2)
      (problem .diagram "Edge has fewer than two waypoints" (attribute? "id" edge))

-- The ids of flows, each once, in order; an absent id counts as empty.
def sortedFlowIds (flows : List Flow) : List (Option String) :=
  (flows.map Flow.id).eraseDups.mergeSort fun first second =>
    Text.codesBefore (first.getD "").toList (second.getD "").toList

def edgeCounts (outline : Outline) (edges : List Element) : List Issue :=
  (sortedFlowIds outline.flows).flatMap fun id =>
    let count := (edges.map (attribute? "bpmnElement")).count id
    when (count ≠ 1) (problem .diagram
      ("Sequence flow has " ++ toString count ++ " edges, expected 1") id)

def planeIssues (process : Element) (outline : Outline) (plane : Element) : List Issue :=
  let shapes := childrenNamed (diagramName "BPMNShape") plane
  let edges := childrenNamed (diagramName "BPMNEdge") plane
  when (attribute? "bpmnElement" plane ≠ attribute? "id" process)
      (problem .diagram "BPMNPlane does not reference the process" (attribute? "id" plane)) ++
    shapes.flatMap (shapeIssues outline) ++ shapeCounts outline shapes ++
    edges.flatMap (edgeIssues outline) ++ edgeCounts outline edges

def diagramIssues (process : Element) (outline : Outline) (diagram : Element) : List Issue :=
  match childrenNamed (diagramName "BPMNPlane") diagram with
  | [] => [problem .diagram "BPMNDiagram has no BPMNPlane"]
  | plane :: _ => planeIssues process outline plane

end ProcessDiagram.Validation
