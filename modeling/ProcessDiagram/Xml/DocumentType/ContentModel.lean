import ProcessDiagram.Xml.Scan

set_option autoImplicit false

namespace ProcessDiagram.Xml.ContentModel

def skipQuantifier : List Char → List Char
  | c :: rest => if c = '?' || c = '*' || c = '+' then rest else c :: rest
  | [] => []

def maxGroups : Nat := 256

-- Skips members and ends of groups until all groups are closed. The separators of the open groups are
-- given, the innermost first, as far as they are known.
def skipMembers : Nat → Bool → List (Option Char) → List Char → Option (List Char)
  | _, _, [], input => some input
  | 0, _, _, _ => none
  | fuel + 1, true, groups, input =>
      match skipSpaces input with
      | '(' :: rest =>
          if maxGroups ≤ groups.length then none else skipMembers fuel true (none :: groups) rest
      | spaced => do
          let (_, rest) ← scanName? spaced
          skipMembers fuel false groups (skipQuantifier rest)
  | fuel + 1, false, separator :: outer, input =>
      match skipSpaces input with
      | ')' :: rest => skipMembers fuel false outer (skipQuantifier rest)
      | c :: rest =>
          if (c = ',' || c = '|') && separator.all (· = c) then
            skipMembers fuel true (some c :: outer) rest
          else none
      | [] => none

def skipMixed : Nat → Bool → List Char → Option (List Char)
  | 0, _, _ => none
  | fuel + 1, named, input =>
      match skipSpaces input with
      | '|' :: rest => do
          let (_, rest) ← scanName? (skipSpaces rest)
          skipMixed fuel true rest
      | ')' :: '*' :: rest => some rest
      | ')' :: rest => if named then none else some rest
      | _ => none

def skip? (input : List Char) : Option (List Char) :=
  match (afterWord? "EMPTY".toList input).or (afterWord? "ANY".toList input) with
  | some rest => some rest
  | none => do
      let rest ← afterWord? ['('] input
      match afterWord? "#PCDATA".toList (skipSpaces rest) with
      | some mixed => skipMixed (mixed.length + 1) false mixed
      | none => skipMembers (2 * rest.length + 1) true [none] rest

end ProcessDiagram.Xml.ContentModel
