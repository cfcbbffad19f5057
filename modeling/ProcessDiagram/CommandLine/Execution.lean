import ProcessDiagram.CommandLine.Command
import ProcessDiagram.CommandLine.Folder
import ProcessDiagram.Compiler.Compilation
import ProcessDiagram.Json.Printer
import ProcessDiagram.Json.Reader
import ProcessDiagram.Text.Basic
import ProcessDiagram.Text.Utf8

set_option autoImplicit false

namespace ProcessDiagram.CommandLine

structure Surroundings where
  environment : Config.Environment := []
  standardInput : Octets := []
  look : String → Place

inductive Crash where
  | unreadableText
  | overlongInteger
  | nestedTooDeep
  | missingDirectory
  | throughFile
  | isDirectory
  | overlongName
  | forbiddenPath
deriving DecidableEq, Repr

def Crash.message : Crash → String
  | .unreadableText => "The input is not UTF-8"
  | .overlongInteger => "The input holds a number with too many digits"
  | .nestedTooDeep => "The input is nested too deep"
  | .missingDirectory => "No such file or directory"
  | .throughFile => "Not a directory"
  | .isDirectory => "Is a directory"
  | .overlongName => "File name too long"
  | .forbiddenPath => "The path holds a null character"

structure Outcome where
  exitCode : Nat := 0
  output : String := ""
  errors : String := ""
  written : Option (String × String) := none
  crash : Option Crash := none
deriving DecidableEq, Repr

abbrev Result := Except UsageError Outcome

namespace Outcome

def failed (message : String) : Outcome where
  exitCode := 1
  errors := "Error: " ++ message ++ "\n"

def crashed (crash : Crash) : Outcome where
  exitCode := 1
  crash := some crash

def printed (text : String) : Outcome where
  output := text

end Outcome

def lines (texts : List String) : String :=
  String.join (texts.map fun text => text ++ "\n")

def configOf (options : CompileOptions) (environment : Config.Environment) : Config :=
  let config := Config.ofEnvironment environment
  { config with
    strategy := options.layout.getD config.strategy
    honorGateways := options.honorGateways || config.honorGateways
    validateOutput := !options.noValidate && config.validateOutput
    logLevel := if options.verbose then .debug else config.logLevel }

def reportJson (report : Report) : Json :=
  report.toJson fun score => .decimal (Decimal.ofInt score)

def resultJson (compilation : Compilation) : Json :=
  .record ([("status", .text "complete"), ("process_id", .text compilation.processId),
    ("archetype", (compilation.graph.archetype.map Json.text).getD .null),
    ("layout_strategy", .text compilation.diagram.strategy.name),
    ("nodes", .integer compilation.graph.nodes.length),
    ("edges", .integer compilation.graph.edges.length), ("xml", .text compilation.xml)] ++
    (compilation.report.map fun report => ("validation", reportJson report)).toList)

def writeTo (surroundings : Surroundings) (path label text : String) : Outcome :=
  match surroundings.look path with
  | .file _ | .vacant =>
      { errors := label ++ " written to: " ++ path ++ "\n", written := some (path, text) }
  | .directory | .vacantDirectory => .crashed .isDirectory
  | .unreachable => .crashed .missingDirectory
  | .throughFile => .crashed .throughFile
  | .overlongName => .crashed .overlongName
  | .forbiddenPath => .crashed .forbiddenPath

def deliver (surroundings : Surroundings) (options : CompileOptions) (compilation : Compilation) :
    Outcome :=
  let (label, text, ending) :=
    if options.jsonOutput then ("JSON output", (resultJson compilation).pretty, "\n")
    else ("BPMN XML", compilation.xml, "")
  match options.output.filter (· ≠ "") with
  | some path => writeTo surroundings path label text
  | none => .printed (text ++ ending)

def compileText (surroundings : Surroundings) (options : CompileOptions) (digits : String)
    (input : List Char) : Outcome :=
  match Json.readAll (Text.unifyLineEnds input) with
  | .error .malformed => .failed "Input is not valid JSON"
  | .error .overlongInteger => .crashed .overlongInteger
  | .error .nestedTooDeep => .crashed .nestedTooDeep
  | .ok (.record fields) =>
      match Compilation.compile (configOf options surroundings.environment)
        Compilation.defaultArchetypes (.record fields) digits with
      | .ok compilation => deliver surroundings options compilation
      | .error failure => .failed failure.failureMessage
  | .ok _ => .failed "Input must be a JSON object"

def pathFailure (path : String) : Place → Result
  | .directory => .error (.isDirectory path)
  | .forbiddenPath => .ok (.crashed .forbiddenPath)
  | _ => .error (.unreadableFile path)

def readInput (surroundings : Surroundings) (path : String) (use : Octets → Result) : Result :=
  if path = "-" then use surroundings.standardInput
  else
    match surroundings.look path with
    | .file content => use content
    | place => pathFailure path place

def checkOutput (surroundings : Surroundings) (options : CompileOptions) (use : Result) : Result :=
  match options.output with
  | none => use
  | some path =>
      match surroundings.look path with
      | .directory => pathFailure path .directory
      | .forbiddenPath => pathFailure path .forbiddenPath
      | _ => use

def runCompile (surroundings : Surroundings) (options : CompileOptions) (digits : String) :
    Result :=
  checkOutput surroundings options <|
    readInput surroundings options.input fun octets =>
      match Text.Utf8.decode octets with
      | .error _ => .ok (.crashed .unreadableText)
      | .ok input => .ok (compileText surroundings options digits input)

def issueLine (issue : Issue) : String :=
  let place := match issue.elementId with
    | some id => if id = "" then "" else " [" ++ id ++ "]"
    | none => ""
  "  " ++ Text.upper issue.level.name ++ ": " ++ issue.message ++ place

def metricLines (report : Report) : List String :=
  match report.metrics with
  | none => []
  | some metrics =>
      ["Flow nodes: " ++ toString metrics.flowNodes,
        "Sequence flows: " ++ toString metrics.sequenceFlows,
        "Gateways: " ++ toString metrics.gateways]

def reportText (path : String) (report : Report) : String :=
  lines (["File: " ++ path, "Valid: " ++ (if report.isValid then "True" else "False"),
    "Score: " ++ toString report.score] ++ metricLines report ++ report.issues.map issueLine)

def fileReportJson (path : String) (report : Report) : Json :=
  .record (("file", .text path) :: (reportJson report).fields)

def reportOn (path : String) (format : ReportFormat) (input : List Char) : Outcome :=
  let report := Validation.validate (String.ofList (Text.unifyLineEnds input))
  { exitCode := if report.isValid then 0 else 1
    output := match format with
      | .text => reportText path report
      | .json => (fileReportJson path report).pretty ++ "\n" }

def runValidate (surroundings : Surroundings) (path : String) (format : ReportFormat) : Result :=
  match surroundings.look path with
  | .file content =>
      match Text.Utf8.decode content with
      | .error fault => .ok (.failed fault.message)
      | .ok input => .ok (reportOn path format input)
  | place => pathFailure path place

def archetypeLines : List String :=
  Compilation.defaultArchetypes.zipIdx.flatMap fun (archetype, index) =>
    (toString (index + 1) ++ ". " ++ archetype.name) ::
      if archetype.summary = "" then [] else ["   " ++ archetype.summary]

def version : String := "0.1.0"

def infoJson (config : Config) : Json :=
  .record [("name", .text "BPMN Mapgen"), ("version", .text version),
    ("description", .text "Compile structured process descriptions to BPMN 2.0 diagrams"),
    ("layout_strategies", .list (Strategy.all.map fun strategy => .text strategy.name)),
    ("archetypes", .list (Compilation.defaultArchetypes.map fun archetype => .text archetype.name)),
    ("config", .record [("target_namespace", .text config.document.targetNamespace.shown),
      ("exporter", .text config.document.exporter.shown),
      ("layout_strategy", .text config.strategy.name),
      ("honor_gateways", .bool config.honorGateways),
      ("validate_output", .bool config.validateOutput),
      ("include_documentation", .bool config.document.includeDocumentation)])]

def helpText : String :=
  lines ["Compile process descriptions to BPMN diagrams.", "", "Commands:",
    "  compile [INPUT_FILE]  Compile a JSON process description into BPMN 2.0 XML",
    "  validate BPMN_FILE    Validate a BPMN XML file for structural correctness",
    "  archetypes            List the built-in process archetypes in match order",
    "  info                  Show version and configuration information"]

def execute (surroundings : Surroundings) (digits : String) : Command → Result
  | .compile options => runCompile surroundings options digits
  | .validate path format => runValidate surroundings path format
  | .archetypes => .ok (.printed (lines archetypeLines))
  | .info => .ok (.printed
      ((infoJson (Config.ofEnvironment surroundings.environment)).pretty ++ "\n"))
  | .help => .ok (.printed helpText)

def run (surroundings : Surroundings) (digits : String) (arguments : List String) : Result := do
  execute surroundings digits (← Command.read arguments)

def runIn (folder : Folder) (environment : Config.Environment) (standardInput : Octets)
    (digits : String) (arguments : List String) : Except UsageError (Outcome × Folder) := do
  let outcome ← run ⟨environment, standardInput, folder.look⟩ digits arguments
  match outcome.written with
  | some (path, text) => return (outcome, folder.put path text.toUTF8.toList)
  | none => return (outcome, folder)

end ProcessDiagram.CommandLine
