import ProcessDiagram.Archetype.Basic
import ProcessDiagram.Description.Branching
import ProcessDiagram.Graph.Defect

set_option autoImplicit false

namespace ProcessDiagram

inductive ConstructionFailure where
  | unknownKind (failure : UnknownMember)
  | inconsistent (name : String) (defects : List Defect)

def ConstructionFailure.message : ConstructionFailure → String
  | .unknownKind failure => failure.message
  | .inconsistent name defects =>
      "Built graph for '" ++ name ++ "' is inconsistent: " ++
        String.intercalate "; " (defects.map Defect.message)

namespace StepKind

def nodeKind : StepKind → NodeKind
  | .task | .gateway => .task
  | .userTask => .userTask
  | .serviceTask => .serviceTask
  | .manualTask => .manualTask

end StepKind

namespace GatewayKind

def nodeKind : GatewayKind → NodeKind
  | .exclusive => .exclusiveGateway
  | .parallel => .parallelGateway
  | .inclusive => .inclusiveGateway

def condition (kind : GatewayKind) (outcome : String) : Option String :=
  if kind = .parallel then none else some outcome

end GatewayKind

-- A chain under way: its last node, and the condition on the edge that goes on from there.
structure Chain where
  draft : Draft
  last : String
  pending : Option String := none

namespace Chain

def start (draft : Draft) (label : String) : Chain where
  draft := draft.addNode .startEvent label "StartEvent" (some "start")
  last := draft.nextId

def extend (chain : Chain) (kind : NodeKind) (label stem : String)
    (role : Option String := none) (documentation actor : String := "") : Chain where
  draft := (chain.draft.addNode kind label stem role documentation actor).connect
    chain.last chain.draft.nextId chain.pending
  last := chain.draft.nextId

def endBranch (kind : GatewayKind) (node : String) (draft : Draft) (outcome : String) : Draft :=
  (draft.addNode .endEvent ("End - " ++ outcome) ("EndEvent_" ++ outcome)).connect
    node draft.nextId (kind.condition outcome)

def branchOut (chain : Chain) (gateway : Gateway) : Chain :=
  match gateway.branches with
  | [] => chain
  | first :: others =>
      { chain with
        draft := others.foldl (endBranch gateway.kind chain.last) chain.draft
        pending := gateway.kind.condition first }

def stemOf (step : Step) (number : Nat) : String :=
  match step.id with
  | some id => if id = "" then "step_" ++ toString number else id
  | none => "step_" ++ toString number

def addStep (gateways : List Gateway) (chain : Chain) (entry : Step × Nat) : Chain :=
  let (step, index) := entry
  let stem := stemOf step (index + 1)
  match Description.gatewayOf? gateways step with
  | some gateway =>
      (chain.extend gateway.kind.nodeKind step.name stem none step.description step.actor).branchOut
        gateway
  | none => chain.extend step.kind.nodeKind step.name stem none step.description step.actor

def ofSteps (draft : Draft) (label : String) (gateways : List Gateway) (steps : List Step) :
    Chain :=
  steps.zipIdx.foldl (addStep gateways) (start draft label)

def finish (chain : Chain) (label : String) : Draft :=
  (chain.extend .endEvent label "EndEvent" (some "end")).draft

end Chain

namespace Graph

def generic (description : Description) (honorGateways : Bool) (token : String) : Graph :=
  let gateways := if honorGateways then description.gateways else []
  let chain := Chain.ofSteps (.empty token) description.startLabel gateways description.steps
  (chain.finish description.endLabel).graph description.name

def ofArchetype {Coordinate : Type} (archetype : Archetype Coordinate) (description : Description)
    (token : String) : Except UnknownMember Graph := do
  let draft ← archetype.runRecipe description (.empty token)
  return draft.graph description.name (some archetype.name)

def ofDescription {Coordinate : Type} (archetypes : List (Archetype Coordinate))
    (honorGateways : Bool) (description : Description) (token : String) :
    Except ConstructionFailure Graph := do
  let graph ← match Archetype.find? archetypes description with
    | some archetype =>
        (ofArchetype archetype description token).mapError ConstructionFailure.unknownKind
    | none => .ok (generic description honorGateways token)
  match graph.defects with
  | [] => .ok graph
  | defects => .error (.inconsistent description.name defects)

end Graph

end ProcessDiagram
