import ProcessDiagram.Graph.Path
import ProcessDiagram.Text.Basic
import ProcessDiagram.Text.Quoted

set_option autoImplicit false

namespace ProcessDiagram

inductive Defect where
  | duplicateNodeIds
  | duplicateElementIds
  | unknownSource (index : Nat) (id : String)
  | unknownTarget (index : Nat) (id : String)
  | startCount (count : Nat)
  | noIncoming (label id : String)
  | startIncoming (label : String)
  | noOutgoing (label id : String)
  | unreachable (ids : List String)
  | duplicateLabels (label : String)
deriving DecidableEq, Repr

def Defect.message : Defect → String
  | .duplicateNodeIds => "Duplicate internal node ids"
  | .duplicateElementIds => "Duplicate BPMN element ids"
  | .unknownSource index id =>
      "Edge " ++ toString index ++ " references non-existent source: " ++ id
  | .unknownTarget index id =>
      "Edge " ++ toString index ++ " references non-existent target: " ++ id
  | .startCount count => "Expected exactly one start node, found " ++ toString count
  | .noIncoming label id => "Node '" ++ label ++ "' (" ++ id ++ ") has no incoming flow"
  | .startIncoming label => "Start node '" ++ label ++ "' has incoming flow"
  | .noOutgoing label id => "Node '" ++ label ++ "' (" ++ id ++ ") has no outgoing flow"
  | .unreachable ids =>
      "Nodes unreachable from start: [" ++ String.intercalate ", " (ids.map Text.quote) ++ "]"
  | .duplicateLabels label => "Gateway '" ++ label ++ "' has duplicate condition labels"

namespace Graph

def when (condition : Bool) (defect : Defect) : List Defect :=
  if condition then [defect] else []

def idDefects (graph : Graph) : List Defect :=
  when (!decide graph.ids.Nodup) .duplicateNodeIds ++
    when (!decide (graph.nodes.map Node.elementId).Nodup) .duplicateElementIds

def edgeDefects (graph : Graph) : List Defect :=
  graph.edges.zipIdx.flatMap fun (edge, index) =>
    when (!graph.ids.contains edge.source) (.unknownSource index edge.source) ++
      when (!graph.ids.contains edge.target) (.unknownTarget index edge.target)

def startDefects (graph : Graph) : List Defect :=
  when (graph.starts.length ≠ 1) (.startCount graph.starts.length)

def nodeDefects (graph : Graph) : List Defect :=
  graph.nodes.flatMap fun node =>
    when (node.kind ≠ .startEvent && (graph.incoming node.id).isEmpty)
        (.noIncoming node.label node.id) ++
      when (node.kind = .startEvent && !(graph.incoming node.id).isEmpty)
        (.startIncoming node.label) ++
      when (node.kind ≠ .endEvent && (graph.outgoing node.id).isEmpty)
        (.noOutgoing node.label node.id)

def unreachableIds (graph : Graph) : List String :=
  match graph.starts with
  | [start] =>
      let reached := graph.reachable start.id
      Text.sort (graph.ids.eraseDups.filter fun id => !reached.contains id)
  | _ => []

def reachDefects (graph : Graph) : List Defect :=
  when (!graph.unreachableIds.isEmpty) (.unreachable graph.unreachableIds)

def branchLabels (graph : Graph) (id : String) : List String :=
  (graph.outgoing id).filterMap Edge.label?

def labelDefects (graph : Graph) : List Defect :=
  (graph.ofKind .exclusiveGateway).flatMap fun gateway =>
    when (!decide (graph.branchLabels gateway.id).Nodup) (.duplicateLabels gateway.label)

def defects (graph : Graph) : List Defect :=
  graph.idDefects ++ graph.edgeDefects ++ graph.startDefects ++ graph.nodeDefects ++
    graph.reachDefects ++ graph.labelDefects

end Graph

end ProcessDiagram
