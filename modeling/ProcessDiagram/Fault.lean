set_option autoImplicit false

namespace ProcessDiagram

inductive Fault.Cause where
  | missing
  | noText
  | noMember
  | noNumber
  | unreadableNumber
  | notPositive
  | overlong
deriving DecidableEq, Repr

structure Fault where
  path : List String
  cause : Fault.Cause
deriving DecidableEq, Repr

def Fault.of? {Value : Type} : Except Fault Value → Option Fault
  | .ok _ => none
  | .error fault => some fault

-- An exception that is no fault of a value.
structure Interruption where
  kind : String
  message : String
deriving DecidableEq, Repr

end ProcessDiagram
