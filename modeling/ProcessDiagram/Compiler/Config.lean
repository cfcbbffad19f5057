import ProcessDiagram.Document.Writer
import ProcessDiagram.Json.Display
import ProcessDiagram.LogLevel
import ProcessDiagram.Text.Basic
import ProcessDiagram.Text.Casing

set_option autoImplicit false

namespace ProcessDiagram

structure Config where
  document : Document.Options := {}
  strategy : Strategy := .auto
  honorGateways : Bool := false
  validateOutput : Bool := true
  logLevel : LogLevel := .info
  jsonLogs : Bool := false
  enableTracing : Bool := false
deriving DecidableEq, Repr

namespace Config

inductive Failure where
  | unknownSetting (name : String)
  | unknownMember (failure : UnknownMember)
deriving DecidableEq, Repr

def readStrategy : Option Json → Except UnknownMember Strategy
  | none => .ok .auto
  | some (.text name) => Strategy.named name
  | some value => .error ⟨"LayoutStrategy", value.inspect⟩

def readLogLevel : Option Json → Except UnknownMember LogLevel
  | none => .ok .info
  | some value => LogLevel.named (Text.upper value.display)

def stampOf : Json → Document.Stamp
  | .text value => .text value
  | .null => .other .nothing
  | .bool _ => .other .truth
  | .integer _ => .other .whole
  | .decimal _ => .other .decimal
  | .list _ => .other .list
  | .record _ => .other .record

def readStamp (data : Json) (key : String) (otherwise : Document.Stamp) : Document.Stamp :=
  ((data.field? key).map stampOf).getD otherwise

def readBool (data : Json) (key : String) (otherwise : Bool) : Bool :=
  ((data.field? key).map Json.isTrue).getD otherwise

def documentSettings : List String :=
  ["target_namespace", "exporter", "exporter_version", "include_documentation"]

def settings : List String :=
  documentSettings ++ ["layout_strategy", "honor_gateways", "validate_output", "log_level",
    "json_logs", "enable_tracing"]

def checkSettings (known : List String) (data : Json) : Except Failure Unit :=
  match data.strayField? known with
  | some name => .error (.unknownSetting name)
  | none => .ok ()

def documentOf (data : Json) : Document.Options :=
  let options : Document.Options := {}
  { targetNamespace := readStamp data "target_namespace" options.targetNamespace
    exporter := readStamp data "exporter" options.exporter
    exporterVersion := readStamp data "exporter_version" options.exporterVersion
    includeDocumentation := readBool data "include_documentation" options.includeDocumentation }

def readDocument (data : Json) : Except Failure Document.Options := do
  checkSettings documentSettings data
  return documentOf data

-- An unknown setting is found before a wrong strategy, and that before a wrong log level.
def read (data : Json) : Except Failure Config := do
  checkSettings settings data
  let strategy ← (readStrategy (data.field? "layout_strategy")).mapError Failure.unknownMember
  let logLevel ← (readLogLevel (data.field? "log_level")).mapError Failure.unknownMember
  return {
    document := documentOf data
    strategy
    honorGateways := readBool data "honor_gateways" false
    validateOutput := readBool data "validate_output" true
    logLevel
    jsonLogs := readBool data "json_logs" false
    enableTracing := readBool data "enable_tracing" false }

abbrev Environment := Table String String

def variableName (name : String) : String :=
  "BPMN_MAPGEN_" ++ name

def variableNames : List String :=
  ["TARGET_NAMESPACE", "EXPORTER", "EXPORTER_VERSION", "LAYOUT_STRATEGY", "HONOR_GATEWAYS",
    "VALIDATE_OUTPUT", "INCLUDE_DOCUMENTATION", "LOG_LEVEL", "JSON_LOGS",
    "ENABLE_TRACING"].map variableName

def stampOf? (text : String) : Option Document.Stamp :=
  some (.text text)

def boolOf? (text : String) : Option Bool :=
  let key := Text.lower (Text.strip text)
  if ["1", "true", "yes", "on"].contains key then some true
  else if ["0", "false", "no", "off"].contains key then some false
  else none

def strategyOf? (text : String) : Option Strategy :=
  memberNamed? Strategy.name Strategy.all (Text.lower (Text.strip text))

def logLevelOf? (text : String) : Option LogLevel :=
  memberNamed? LogLevel.name LogLevel.all (Text.upper (Text.strip text))

def valueOf? (environment : Environment) (name : String) : Option String :=
  (Table.get? (variableName name) environment).filter (· ≠ "")

def setting {Value : Type} (environment : Environment) (name : String)
    (parse : String → Option Value) (otherwise : Value) : Value :=
  ((valueOf? environment name).bind parse).getD otherwise

def noteOn {Value : Type} (environment : Environment) (name : String)
    (parse : String → Option Value) : List LogEntry :=
  match valueOf? environment name with
  | none => []
  | some raw =>
      if (parse raw).isSome then []
      else [⟨.warning, "Ignoring invalid " ++ variableName name ++ "=" ++ Text.quote raw⟩]

def ofEnvironment (environment : Environment) : Config :=
  let document : Document.Options := {}
  { document := {
      targetNamespace := setting environment "TARGET_NAMESPACE" stampOf? document.targetNamespace
      exporter := setting environment "EXPORTER" stampOf? document.exporter
      exporterVersion := setting environment "EXPORTER_VERSION" stampOf? document.exporterVersion
      includeDocumentation :=
        setting environment "INCLUDE_DOCUMENTATION" boolOf? document.includeDocumentation }
    strategy := setting environment "LAYOUT_STRATEGY" strategyOf? .auto
    honorGateways := setting environment "HONOR_GATEWAYS" boolOf? false
    validateOutput := setting environment "VALIDATE_OUTPUT" boolOf? true
    logLevel := setting environment "LOG_LEVEL" logLevelOf? .info
    jsonLogs := setting environment "JSON_LOGS" boolOf? false
    enableTracing := setting environment "ENABLE_TRACING" boolOf? false }

def environmentLog (environment : Environment) : List LogEntry :=
  noteOn environment "LAYOUT_STRATEGY" strategyOf? ++
    noteOn environment "HONOR_GATEWAYS" boolOf? ++
    noteOn environment "VALIDATE_OUTPUT" boolOf? ++
    noteOn environment "INCLUDE_DOCUMENTATION" boolOf? ++
    noteOn environment "LOG_LEVEL" logLevelOf? ++
    noteOn environment "JSON_LOGS" boolOf? ++
    noteOn environment "ENABLE_TRACING" boolOf?

end Config

end ProcessDiagram
