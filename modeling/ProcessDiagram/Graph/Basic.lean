set_option autoImplicit false

namespace ProcessDiagram

inductive NodeKind where
  | startEvent
  | endEvent
  | task
  | userTask
  | serviceTask
  | manualTask
  | exclusiveGateway
  | parallelGateway
  | inclusiveGateway
deriving DecidableEq, Repr

namespace NodeKind

def name : NodeKind → String
  | .startEvent => "startEvent"
  | .endEvent => "endEvent"
  | .task => "task"
  | .userTask => "userTask"
  | .serviceTask => "serviceTask"
  | .manualTask => "manualTask"
  | .exclusiveGateway => "exclusiveGateway"
  | .parallelGateway => "parallelGateway"
  | .inclusiveGateway => "inclusiveGateway"

def all : List NodeKind :=
  [.startEvent, .endEvent, .task, .userTask, .serviceTask, .manualTask, .exclusiveGateway,
   .parallelGateway, .inclusiveGateway]

def isEvent : NodeKind → Bool
  | .startEvent | .endEvent => true
  | _ => false

def isGateway : NodeKind → Bool
  | .exclusiveGateway | .parallelGateway | .inclusiveGateway => true
  | _ => false

def isTask (kind : NodeKind) : Bool :=
  !kind.isEvent && !kind.isGateway

end NodeKind

structure Node where
  id : String
  elementId : String
  kind : NodeKind
  label : String := ""
  documentation : String := ""
  actor : String := ""
  role : Option String := none
deriving DecidableEq, Repr

structure Edge where
  source : String
  target : String
  condition : Option String := none
deriving DecidableEq, Repr

def Edge.label? (edge : Edge) : Option String :=
  edge.condition.filter (· ≠ "")

structure Graph where
  name : String := ""
  nodes : List Node := []
  edges : List Edge := []
  archetype : Option String := none
deriving DecidableEq, Repr

namespace Graph

def ids (graph : Graph) : List String :=
  graph.nodes.map Node.id

-- The node with an id; of several the last one counts.
def node? (graph : Graph) (id : String) : Option Node :=
  graph.nodes.reverse.find? fun node => node.id = id

def outgoing (graph : Graph) (id : String) : List Edge :=
  graph.edges.filter fun edge => edge.source = id

def incoming (graph : Graph) (id : String) : List Edge :=
  graph.edges.filter fun edge => edge.target = id

def ofKind (graph : Graph) (kind : NodeKind) : List Node :=
  graph.nodes.filter fun node => node.kind = kind

def starts (graph : Graph) : List Node :=
  graph.ofKind .startEvent

def ends (graph : Graph) : List Node :=
  graph.ofKind .endEvent

def gateways (graph : Graph) : List Node :=
  graph.nodes.filter fun node => node.kind.isGateway

def hasGateways (graph : Graph) : Bool :=
  graph.nodes.any fun node => node.kind.isGateway

def links (graph : Graph) : List (String × String) :=
  graph.edges.map fun edge => (edge.source, edge.target)

end Graph

end ProcessDiagram
