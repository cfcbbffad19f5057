import ProcessDiagram.LogLevel

set_option autoImplicit false

namespace ProcessDiagram

structure Severity where
  name : String
  rank : Int
deriving DecidableEq, Repr

def LogLevel.severity (level : LogLevel) : Severity :=
  ⟨level.name, match level with
    | .debug => 10
    | .info => 20
    | .warning => 30
    | .error => 40
    | .critical => 50⟩

namespace Severity

def standard : List Severity :=
  LogLevel.all.map LogLevel.severity

def known : List Severity :=
  standard ++ [⟨"TRACE", 5⟩, ⟨"SUCCESS", 25⟩]

def named? (name : String) : Option Severity :=
  known.find? fun severity => severity.name = name

def ofRank (rank : Int) : Severity :=
  (standard.find? fun severity => severity.rank = rank).getD ⟨"Level " ++ toString rank, rank⟩

end Severity

end ProcessDiagram
