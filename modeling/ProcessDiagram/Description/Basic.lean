set_option autoImplicit false

namespace ProcessDiagram

inductive StepKind where
  | task
  | userTask
  | serviceTask
  | manualTask
  | gateway
deriving DecidableEq, Repr

namespace StepKind

def name : StepKind → String
  | .task => "task"
  | .userTask => "userTask"
  | .serviceTask => "serviceTask"
  | .manualTask => "manualTask"
  | .gateway => "gateway"

def all : List StepKind :=
  [.task, .userTask, .serviceTask, .manualTask, .gateway]

end StepKind

inductive GatewayKind where
  | exclusive
  | parallel
  | inclusive
deriving DecidableEq, Repr

namespace GatewayKind

def name : GatewayKind → String
  | .exclusive => "exclusive"
  | .parallel => "parallel"
  | .inclusive => "inclusive"

def all : List GatewayKind :=
  [.exclusive, .parallel, .inclusive]

end GatewayKind

structure EventEntry where
  name : String := ""
  description : String := ""
deriving DecidableEq, Repr

structure Step where
  id : Option String := none
  name : String := ""
  description : String := ""
  kind : StepKind := .task
  actor : String := ""
  inputs : List String := []
  outputs : List String := []
  duration : String := ""
deriving DecidableEq, Repr

structure Gateway where
  id : String := ""
  name : String := ""
  kind : GatewayKind := .exclusive
  condition : String := ""
  outcomes : List String := []
deriving DecidableEq, Repr

structure Description where
  name : String := ""
  description : String := ""
  steps : List Step := []
  gateways : List Gateway := []
  startEvents : List EventEntry := []
  endEvents : List EventEntry := []
deriving DecidableEq, Repr

namespace Description

def firstLabel (events : List EventEntry) (otherwise : String) : String :=
  match events with
  | [] => otherwise
  | event :: _ => if event.name = "" then otherwise else event.name

def startLabel (description : Description) : String :=
  firstLabel description.startEvents "Start"

def endLabel (description : Description) : String :=
  firstLabel description.endEvents "End"

end Description

end ProcessDiagram
