import ProcessDiagram.Validation.Outline

set_option autoImplicit false

namespace ProcessDiagram.Validation

mutual
def within : Element → List Element
  | .element name attributes children => .element name attributes children :: withinAll children
  | node => [node]

def withinAll : List Element → List Element
  | [] => []
  | node :: rest => within node ++ withinAll rest
end

def identifier? (element : Element) : Option String :=
  attribute? "id" element

def RefersTo (elements : List Element) (reference : Option String) : Prop :=
  ∃ id, reference = some id ∧ ∃ element ∈ elements, identifier? element = some id

def flowNodesOf (process : Element) : List Element :=
  NodeKind.all.flatMap fun kind => childrenNamed (modelName kind.name) process

def sequenceFlowsOf (process : Element) : List Element :=
  childrenNamed (modelName "sequenceFlow") process

structure WellJoined (process : Element) : Prop where
  sources : ∀ flow ∈ sequenceFlowsOf process,
    RefersTo (flowNodesOf process) (attribute? "sourceRef" flow)
  targets : ∀ flow ∈ sequenceFlowsOf process,
    RefersTo (flowNodesOf process) (attribute? "targetRef" flow)
  incoming : ∀ node ∈ flowNodesOf process, ∀ child ∈ childrenNamed (modelName "incoming") node,
    RefersTo (sequenceFlowsOf process) child.text?
  outgoing : ∀ node ∈ flowNodesOf process, ∀ child ∈ childrenNamed (modelName "outgoing") node,
    RefersTo (sequenceFlowsOf process) child.text?
  start : ∃ start, childrenNamed (modelName "startEvent") process = [start]
  ends : childrenNamed (modelName "endEvent") process ≠ []
  entered : ∀ node ∈ flowNodesOf process, node.name? ≠ some (modelName "startEvent") →
    ∃ flow ∈ sequenceFlowsOf process, attribute? "targetRef" flow = identifier? node
  left : ∀ node ∈ flowNodesOf process, node.name? ≠ some (modelName "endEvent") →
    ∃ flow ∈ sequenceFlowsOf process, attribute? "sourceRef" flow = identifier? node

inductive Reached (process : Element) : Element → Prop
  | start (node : Element) (member : node ∈ childrenNamed (modelName "startEvent") process) :
      Reached process node
  | step (source flow target : Element) (reached : Reached process source)
      (member : flow ∈ sequenceFlowsOf process)
      (leaves : attribute? "sourceRef" flow = identifier? source)
      (enters : attribute? "targetRef" flow = identifier? target)
      (inside : target ∈ flowNodesOf process) : Reached process target

def shapesOf (plane : Element) : List Element :=
  childrenNamed (diagramName "BPMNShape") plane

def edgesOf (plane : Element) : List Element :=
  childrenNamed (diagramName "BPMNEdge") plane

def drawing (element shape : Element) : Bool :=
  attribute? "bpmnElement" shape = identifier? element

structure WellDrawn (process plane : Element) : Prop where
  stands : attribute? "bpmnElement" plane = identifier? process
  shapes : ∀ shape ∈ shapesOf plane,
    RefersTo (flowNodesOf process) (attribute? "bpmnElement" shape) ∧
      childrenNamed (boxName "Bounds") shape ≠ []
  edges : ∀ edge ∈ edgesOf plane,
    RefersTo (sequenceFlowsOf process) (attribute? "bpmnElement" edge) ∧
      2 ≤ (childrenNamed (pointName "waypoint") edge).length
  oneShape : ∀ node ∈ flowNodesOf process, (shapesOf plane).countP (drawing node) = 1
  oneEdge : ∀ flow ∈ sequenceFlowsOf process, (edgesOf plane).countP (drawing flow) = 1

structure Conforms (root : Element) : Prop where
  named : root.name? = some (modelName "definitions")
  distinct : ((within root).filterMap identifier?).Nodup
  parts : ∃ process diagram plane others,
    childrenNamed (modelName "process") root = [process] ∧
      childrenNamed (diagramName "BPMNDiagram") root = [diagram] ∧
      childrenNamed (diagramName "BPMNPlane") diagram = plane :: others ∧
      WellJoined process ∧ WellDrawn process plane

end ProcessDiagram.Validation
