import ProcessDiagram.Json.Basic
import ProcessDiagram.Member
import ProcessDiagram.Table

set_option autoImplicit false

namespace ProcessDiagram

inductive Level where
  | info
  | warning
  | error
deriving DecidableEq, Repr

namespace Level

def name : Level → String
  | .info => "info"
  | .warning => "warning"
  | .error => "error"

def all : List Level :=
  [.info, .warning, .error]

end Level

inductive Category where
  | xmlStructure
  | references
  | diagram
  | connectivity
deriving DecidableEq, Repr

namespace Category

def name : Category → String
  | .xmlStructure => "xml_structure"
  | .references => "references"
  | .diagram => "diagram"
  | .connectivity => "connectivity"

def all : List Category :=
  [.xmlStructure, .references, .diagram, .connectivity]

end Category

structure Issue where
  level : Level
  category : Category
  message : String
  elementId : Option String := none
  suggestion : Option String := none
deriving DecidableEq, Repr

structure Metrics where
  flowNodes : Nat
  sequenceFlows : Nat
  gateways : Nat
deriving DecidableEq, Repr

structure Report where
  issues : List Issue := []
  metrics : Option Metrics := none
deriving DecidableEq, Repr

namespace Report

def add (report : Report) (issue : Issue) : Report :=
  { report with issues := report.issues ++ [issue] }

def ofLevel (report : Report) (level : Level) : List Issue :=
  report.issues.filter fun issue => issue.level = level

def errors (report : Report) : List Issue :=
  report.ofLevel .error

def warnings (report : Report) : List Issue :=
  report.ofLevel .warning

def isValid (report : Report) : Bool :=
  report.errors.isEmpty

def score (report : Report) : Nat :=
  100 - 15 * report.errors.length - 5 * report.warnings.length

def levelCounts (report : Report) : Table Level Nat :=
  Table.tally (report.issues.map Issue.level)

def textOrNull (value : Option String) : Json :=
  match value with
  | some text => .text text
  | none => .null

def issueJson (issue : Issue) : Json :=
  .record [("level", .text issue.level.name), ("category", .text issue.category.name),
    ("message", .text issue.message), ("element_id", textOrNull issue.elementId),
    ("suggestion", textOrNull issue.suggestion)]

def metricsList (report : Report) : List (String × Nat) :=
  match report.metrics with
  | some metrics =>
      [("flow_nodes", metrics.flowNodes), ("sequence_flows", metrics.sequenceFlows),
        ("gateways", metrics.gateways)]
  | none => []

def metricsJson (report : Report) : Json :=
  .record (report.metricsList.map fun (name, count) => (name, .integer count))

def toJson (writeScore : Nat → Json) (report : Report) : Json :=
  .record [("is_valid", .bool report.isValid), ("overall_score", writeScore report.score),
    ("issues", .list (report.issues.map issueJson)), ("metrics", report.metricsJson)]

end Report

end ProcessDiagram
