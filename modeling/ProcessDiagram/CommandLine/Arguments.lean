import ProcessDiagram.Layout.Strategy

set_option autoImplicit false

namespace ProcessDiagram.CommandLine

inductive UsageError where
  | noCommand
  | unknownCommand (name : String)
  | unknownOption (name : String)
  | missingValue (name : String)
  | unexpectedValue (name : String)
  | badChoice (name value : String)
  | missingArgument (name : String)
  | extraArgument (value : String)
  | unreadableFile (path : String)
  | isDirectory (path : String)
deriving DecidableEq, Repr

def UsageError.message : UsageError → String
  | .noCommand => "Missing command."
  | .unknownCommand name => "No such command '" ++ name ++ "'."
  | .unknownOption name => "No such option: " ++ name
  | .missingValue name => "Option '" ++ name ++ "' requires an argument."
  | .unexpectedValue name => "Option '" ++ name ++ "' does not take a value."
  | .badChoice name value => "Invalid value for '" ++ name ++ "': '" ++ value ++ "'."
  | .missingArgument name => "Missing argument '" ++ name ++ "'."
  | .extraArgument value => "Got unexpected extra argument (" ++ value ++ ")"
  | .unreadableFile path => "'" ++ path ++ "': No such file or directory"
  | .isDirectory path => "'" ++ path ++ "' is a directory."

structure OptionForm where
  long : String
  short : Option Char := none
  takesValue : Bool := false

structure Parsed where
  options : List (String × String) := []
  arguments : List String := []

namespace Parsed

def addOption (parsed : Parsed) (name value : String) : Parsed :=
  { parsed with options := (name, value) :: parsed.options }

def addArgument (parsed : Parsed) (argument : String) : Parsed :=
  { parsed with arguments := argument :: parsed.arguments }

def has (parsed : Parsed) (name : String) : Bool :=
  parsed.options.any fun option => option.1 = name

def value? (parsed : Parsed) (name : String) : Option String :=
  parsed.options.reverse.lookup name

def prefers (parsed : Parsed) (name other : String) : Bool :=
  match parsed.options.reverse.find? fun option => option.1 = name || option.1 = other with
  | some option => option.1 = name
  | none => false

end Parsed

inductive Reading where
  | argument
  | option (name value : String)
  | awaiting (name : String)

def splitAtEquals (chars : List Char) : List Char × Option (List Char) :=
  match chars.dropWhile (· ≠ '=') with
  | _ :: value => (chars.takeWhile (· ≠ '='), some value)
  | [] => (chars, none)

def readLong (form : OptionForm) (value : Option (List Char)) : Except UsageError Reading :=
  match form.takesValue, value with
  | true, some value => .ok (.option form.long (String.ofList value))
  | true, none => .ok (.awaiting form.long)
  | false, none => .ok (.option form.long "")
  | false, some _ => .error (.unexpectedValue form.long)

def readShort (forms : List OptionForm) (letter : Char) (rest : List Char) :
    Except UsageError Reading :=
  match forms.find? fun form => form.short = some letter with
  | none => .error (.unknownOption (String.ofList ['-', letter]))
  | some form =>
      if rest.isEmpty then readLong form none else readLong form (some rest)

def readArgument (forms : List OptionForm) (argument : String) : Except UsageError Reading :=
  match argument.toList with
  | '-' :: c :: rest =>
      let (name, value) := splitAtEquals ('-' :: c :: rest)
      match forms.find? fun form => form.long = String.ofList name with
      | some form => readLong form value
      | none =>
          if c = '-' then .error (.unknownOption (String.ofList name)) else readShort forms c rest
  | _ => .ok .argument

def parse (forms : List OptionForm) : List String → Except UsageError Parsed
  | [] => .ok {}
  | argument :: rest =>
      if argument = "--" then .ok { arguments := rest }
      else
        match readArgument forms argument with
        | .error failure => .error failure
        | .ok .argument => (parse forms rest).map fun parsed => parsed.addArgument argument
        | .ok (.option name value) =>
            (parse forms rest).map fun parsed => parsed.addOption name value
        | .ok (.awaiting name) =>
            match rest with
            | [] => .error (.missingValue name)
            | value :: rest => (parse forms rest).map fun parsed => parsed.addOption name value

end ProcessDiagram.CommandLine
