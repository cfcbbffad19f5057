import ProcessDiagram.CommandLine.Execution
import ProcessDiagram.Text.Basic

set_option autoImplicit false

namespace ProcessDiagram.Program

open CommandLine

def lookAt (path : String) : IO Place := do
  try
    let content ← IO.FS.readBinFile path
    return .file content.toList
  catch failure =>
    match failure with
    | .noFileOrDirectory .. => return .vacant
    | .inappropriateType .. => return .directory
    | _ => return .unreachable

def pathsOf : Command → List String
  | .compile options => options.input :: options.output.toList
  | .validate path _ => [path]
  | _ => []

def readsInput : Command → Bool
  | .compile options => options.input = "-"
  | _ => false

def environmentOf (names : List String) : IO Config.Environment := do
  let mut found : Config.Environment := []
  for name in names do
    match ← IO.getEnv name with
    | some value => found := found ++ [(name, value)]
    | none => pure ()
  return found

def surroundingsOf (command : Command) : IO Surroundings := do
  let environment ← environmentOf Config.variableNames
  let standardInput ←
    if readsInput command then do pure (← (← IO.getStdin).readBinToEnd).toList else pure []
  let mut places : Table String Place := []
  for path in pathsOf command do
    places := (path, ← lookAt path) :: places
  let known := places
  return ⟨environment, standardInput, fun path => (Table.get? path known).getD .unreachable⟩

def randomDigits : IO String := do
  let octets ← IO.getRandomBytes 16
  return String.ofList (octets.toList.flatMap fun octet => Text.hex 2 octet.toNat)

def fail (message : String) (exitCode : UInt32) : IO UInt32 := do
  (← IO.getStderr).putStr ("Error: " ++ message ++ "\n")
  return exitCode

def deliver (outcome : Outcome) : IO UInt32 := do
  match outcome.written with
  | some (path, text) => IO.FS.writeFile path text
  | none => pure ()
  (← IO.getStdout).putStr outcome.output
  (← IO.getStderr).putStr outcome.errors
  match outcome.crash with
  | some crash => fail crash.message 1
  | none => return outcome.exitCode.toUInt32

def start (arguments : List String) : IO UInt32 := do
  match Command.read arguments with
  | .error usage => fail usage.message 2
  | .ok command =>
      let surroundings ← surroundingsOf command
      match execute surroundings (← randomDigits) command with
      | .error usage => fail usage.message 2
      | .ok outcome => deliver outcome

end ProcessDiagram.Program

def main (arguments : List String) : IO UInt32 :=
  ProcessDiagram.Program.start arguments
