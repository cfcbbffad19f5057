import ProcessDiagram.Text.Quoted

set_option autoImplicit false

namespace ProcessDiagram

structure UnknownMember where
  enumeration : String
  shown : String
deriving DecidableEq, Repr

def UnknownMember.message (failure : UnknownMember) : String :=
  failure.shown ++ " is not a valid " ++ failure.enumeration

def memberNamed? {Member : Type} (name : Member → String) (members : List Member)
    (wanted : String) : Option Member :=
  members.find? fun member => name member = wanted

def memberNamed {Member : Type} (enumeration : String) (name : Member → String)
    (members : List Member) (wanted : String) : Except UnknownMember Member :=
  match memberNamed? name members wanted with
  | some member => .ok member
  | none => .error ⟨enumeration, Text.quote wanted⟩

end ProcessDiagram
