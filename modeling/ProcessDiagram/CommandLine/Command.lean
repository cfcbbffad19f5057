import ProcessDiagram.CommandLine.Arguments

set_option autoImplicit false

namespace ProcessDiagram.CommandLine

structure CompileOptions where
  input : String := "-"
  output : Option String := none
  layout : Option Strategy := none
  honorGateways : Bool := false
  noValidate : Bool := false
  jsonOutput : Bool := false
  verbose : Bool := false
deriving DecidableEq, Repr

inductive ReportFormat where
  | text
  | json
deriving DecidableEq, Repr

namespace ReportFormat

def name : ReportFormat → String
  | .text => "text"
  | .json => "json"

def all : List ReportFormat :=
  [.text, .json]

end ReportFormat

inductive Command where
  | compile (options : CompileOptions)
  | validate (path : String) (format : ReportFormat)
  | archetypes
  | info
  | help
deriving DecidableEq, Repr

namespace Command

def helpForm : OptionForm := ⟨"--help", none, false⟩

def compileForms : List OptionForm :=
  [⟨"--output", some 'o', true⟩, ⟨"--layout", none, true⟩, ⟨"--honor-gateways", none, false⟩,
   ⟨"--no-validate", none, false⟩, ⟨"--json-output", none, false⟩, ⟨"--verbose", none, false⟩,
   ⟨"--quiet", none, false⟩, helpForm]

def validateForms : List OptionForm :=
  [⟨"--format", none, true⟩, helpForm]

def choice {Value : Type} (name : Value → String) (values : List Value) (option : String)
    (parsed : Parsed) : Except UsageError (Option Value) :=
  match parsed.value? option with
  | none => .ok none
  | some given =>
      match memberNamed? name values given with
      | some value => .ok (some value)
      | none => .error (.badChoice option given)

def readCompile (parsed : Parsed) : Except UsageError Command := do
  let layout ← choice Strategy.name Strategy.all "--layout" parsed
  let options : CompileOptions := {
    output := parsed.value? "--output"
    layout
    honorGateways := parsed.has "--honor-gateways"
    noValidate := parsed.has "--no-validate"
    jsonOutput := parsed.has "--json-output"
    verbose := parsed.prefers "--verbose" "--quiet" }
  match parsed.arguments with
  | [] => return .compile options
  | [input] => return .compile { options with input }
  | _ :: extra :: _ => throw (.extraArgument extra)

def readValidate (parsed : Parsed) : Except UsageError Command := do
  let format ← choice ReportFormat.name ReportFormat.all "--format" parsed
  match parsed.arguments with
  | [] => throw (.missingArgument "BPMN_FILE")
  | [path] => return .validate path (format.getD .text)
  | _ :: extra :: _ => throw (.extraArgument extra)

def readPlain (command : Command) (parsed : Parsed) : Except UsageError Command :=
  match parsed.arguments with
  | [] => .ok command
  | extra :: _ => .error (.extraArgument extra)

-- Reads the arguments after the name of a command; a request for help comes before all else.
def readWith (forms : List OptionForm) (read : Parsed → Except UsageError Command)
    (arguments : List String) : Except UsageError Command := do
  let parsed ← parse forms arguments
  if parsed.has "--help" then return .help else read parsed

def readNamed (name : String) (arguments : List String) : Except UsageError Command :=
  match name with
  | "compile" => readWith compileForms readCompile arguments
  | "validate" => readWith validateForms readValidate arguments
  | "archetypes" => readWith [helpForm] (readPlain .archetypes) arguments
  | "info" => readWith [helpForm] (readPlain .info) arguments
  | _ => .error (.unknownCommand name)

def read (arguments : List String) : Except UsageError Command :=
  match arguments with
  | [] => .error .noCommand
  | "--" :: name :: rest => readNamed name rest
  | name :: rest =>
      match readArgument [helpForm] name with
      | .error failure => .error failure
      | .ok .argument => readNamed name rest
      | .ok _ => .ok .help

end Command

end ProcessDiagram.CommandLine
