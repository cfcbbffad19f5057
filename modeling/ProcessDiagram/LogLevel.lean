import ProcessDiagram.Member

set_option autoImplicit false

namespace ProcessDiagram

inductive LogLevel where
  | debug
  | info
  | warning
  | error
  | critical
deriving DecidableEq, Repr

namespace LogLevel

def name : LogLevel → String
  | .debug => "DEBUG"
  | .info => "INFO"
  | .warning => "WARNING"
  | .error => "ERROR"
  | .critical => "CRITICAL"

def all : List LogLevel :=
  [.debug, .info, .warning, .error, .critical]

def named (wanted : String) : Except UnknownMember LogLevel :=
  memberNamed "LogLevel" name all wanted

end LogLevel

structure LogEntry where
  level : LogLevel
  message : String
deriving DecidableEq, Repr

end ProcessDiagram
