import ProcessDiagram.Archetype.Catalog
import ProcessDiagram.Compiler.Config
import ProcessDiagram.Description.Reader
import ProcessDiagram.Graph.Construction
import ProcessDiagram.Layout.Arrangement
import ProcessDiagram.Validation.Checker

set_option autoImplicit false

namespace ProcessDiagram

inductive Stage where
  | input
  | graphBuilding
  | layout
  | xmlGeneration
  | validation
deriving DecidableEq, Repr

def Stage.name : Stage → String
  | .input => "input"
  | .graphBuilding => "graph_building"
  | .layout => "layout"
  | .xmlGeneration => "xml_generation"
  | .validation => "validation"

namespace Compilation

inductive Cause where
  | construction (failure : ConstructionFailure)
  | arrangement (failure : ArrangementFailure)
  | document (failure : Document.Failure)
  | invalidDocument (issues : List Issue)

def Cause.message : Cause → String
  | .construction failure => failure.message
  | .arrangement failure => failure.message
  | .document failure => failure.message
  | .invalidDocument issues =>
      "Generated document is invalid: " ++ String.intercalate "; " (issues.map Issue.message)

def Cause.stage : Cause → Stage
  | .construction _ => .graphBuilding
  | .arrangement _ => .layout
  | .document _ => .xmlGeneration
  | .invalidDocument _ => .validation

def Cause.failureMessage (cause : Cause) : String :=
  "Failed to generate BPMN: " ++ cause.message

-- Reading the input is the first stage, and fails by what the handler of its faults lets pass.
inductive Failure where
  | input (interruption : Interruption)
  | later (cause : Cause)

def Failure.message : Failure → String
  | .input interruption => interruption.message
  | .later cause => cause.message

def Failure.stage : Failure → Stage
  | .input _ => .input
  | .later cause => cause.stage

def Failure.failureMessage (failure : Failure) : String :=
  "Failed to generate BPMN: " ++ failure.message

def Failure.entry (failure : Failure) : LogEntry :=
  ⟨.error, "BPMN generation failed during " ++ failure.stage.name ++ ": " ++ failure.message⟩

end Compilation

structure Compilation where
  xml : String
  processId : String
  token : String
  graph : Graph
  diagram : Diagram Float
  report : Option Report

namespace Compilation

-- Data that is no description, or an invalid one, counts as an empty description.
def inputOf (data : Json) : Except Interruption Description :=
  match Description.attempt data with
  | .ok description => .ok description
  | .error (.invalid _) => .ok {}
  | .error (.interrupted interruption) => .error interruption

def descriptionOf (data : Json) : Description :=
  (Description.read data).toOption.getD {}

theorem input_described (data : Json) : inputOf data = .ok (descriptionOf data) := by
  rw [inputOf, Description.attempt_read, descriptionOf]
  cases Description.read data with
  | ok description => rfl
  | error found => rfl

def inputLog (data : Json) : List LogEntry :=
  match data with
  | .null => []
  | .record fields =>
      match Description.attempt (.record fields) with
      | .error (.invalid _) => [⟨.warning, "Invalid process description"⟩]
      | _ => []
  | data =>
      [⟨.warning, "Unsupported process description type " ++ data.kindName ++
        ", compiling an empty process"⟩]

def processIdOf (name : String) (graph : Graph) (token : String) : String :=
  let id := Identifier.sanitize name
  if Text.strip name = "" || (graph.nodes.map Node.elementId).contains id then "Process_" ++ token
  else id

abbrev Archetypes := List (Archetype Float)

def defaultArchetypes : Archetypes :=
  Archetype.catalog Float.ofInt

def defaultTables : Table String (RoleTable Float) :=
  Archetype.tables defaultArchetypes

def graphOf (config : Config) (archetypes : Archetypes) (description : Description)
    (token : String) : Except Cause Graph :=
  (Graph.ofDescription archetypes config.honorGateways description token).mapError
    Cause.construction

def diagramOf (config : Config) (archetypes : Archetypes) (graph : Graph) :
    Except Cause (Diagram Float) :=
  (Diagram.ofGraph (Archetype.tables archetypes) config.strategy graph).mapError Cause.arrangement

def layoutLog (config : Config) (archetypes : Archetypes) (graph : Graph) : List LogEntry :=
  ((Diagram.notice? (Archetype.tables archetypes) config.strategy graph).map fun message =>
    ⟨.warning, message⟩).toList

def reportOf (config : Config) (xml : String) : Except Cause (Option Report) :=
  if config.validateOutput then
    let report := Validation.validate xml
    if report.isValid then .ok (some report) else .error (.invalidDocument report.errors)
  else .ok none

def ofGraph (config : Config) (archetypes : Archetypes) (description : Description)
    (token : String) (graph : Graph) : Except Cause Compilation := do
  let diagram ← diagramOf config archetypes graph
  let processId := processIdOf description.name graph token
  let xml ← (Document.write config.document
    ⟨processId, token, description.name, description.description, graph, diagram⟩).mapError
      Cause.document
  let report ← reportOf config xml
  return ⟨xml, processId, token, graph, diagram, report⟩

def ofDescription (config : Config) (archetypes : Archetypes) (description : Description)
    (token : String) : Except Cause Compilation := do
  let graph ← graphOf config archetypes description token
  ofGraph config archetypes description token graph

def compile (config : Config) (archetypes : Archetypes) (data : Json) (digits : String) :
    Except Failure Compilation := do
  let description ← (inputOf data).mapError Failure.input
  (ofDescription config archetypes description (Identifier.tokenOf digits)).mapError Failure.later

theorem compile_described (config : Config) (archetypes : Archetypes) (data : Json)
    (digits : String) :
    compile config archetypes data digits =
      (ofDescription config archetypes (descriptionOf data) (Identifier.tokenOf digits)).mapError
        Failure.later := by
  rw [compile, input_described]
  rfl

theorem failed_later (config : Config) (archetypes : Archetypes) (data : Json) (digits : String)
    (failure : Failure) (failed : compile config archetypes data digits = .error failure) :
    ∃ cause, failure = .later cause := by
  rw [compile_described] at failed
  cases outcome : ofDescription config archetypes (descriptionOf data)
      (Identifier.tokenOf digits) with
  | ok compilation =>
      rw [outcome] at failed
      cases failed
  | error cause =>
      rw [outcome] at failed
      cases failed
      exact ⟨cause, rfl⟩

def notes (config : Config) (archetypes : Archetypes) (data : Json) (digits : String) :
    List LogEntry :=
  inputLog data ++
    match inputOf data with
    | .error _ => []
    | .ok description =>
        match graphOf config archetypes description (Identifier.tokenOf digits) with
        | .ok graph => layoutLog config archetypes graph
        | .error _ => []

def Failure.cause : (failure : Failure) → (∃ cause, failure = .later cause) → Cause
  | .later cause, _ => cause
  | .input _, passed => (nomatch passed)

def run (config : Config) (archetypes : Archetypes) (data : Json) (digits : String) :
    Except Cause Compilation × List LogEntry :=
  let before := notes config archetypes data digits
  match found : compile config archetypes data digits with
  | .ok compilation => (.ok compilation, before)
  | .error failure =>
      (.error (failure.cause (failed_later config archetypes data digits failure found)),
        before ++ [failure.entry])

end Compilation

end ProcessDiagram
