import ProcessDiagram.Text.Basic

set_option autoImplicit false

namespace ProcessDiagram.Xml.Address

def isPlain (c : Char) : Bool :=
  c.isAlphanum || ['-', '.', '_', '~', '!', '$', '&', '\'', '(', ')', '*', '+', ',', ';',
    '='].contains c

def skip (allowed : List Char) : List Char → List Char
  | '%' :: a :: b :: rest =>
      if (Text.hexNumber? [a, b]).isSome then skip allowed rest else '%' :: a :: b :: rest
  | c :: rest => if isPlain c || allowed.contains c then skip allowed rest else c :: rest
  | [] => []

def skipSome? (allowed : List Char) (input : List Char) : Option (List Char) :=
  let rest := skip allowed input
  if rest.length = input.length then none else some rest

def skipTail (input : List Char) : List Char :=
  let rest := skip [':', '@', '/'] input
  let rest := match rest with
    | '?' :: query => skip [':', '@', '/', '?'] query
    | rest => rest
  match rest with
  | '#' :: fragment => skip [':', '@', '/', '?', '[', ']'] fragment
  | rest => rest

def mayFollowAuthority : List Char → Bool
  | [] => true
  | c :: _ => c = '/' || c = '?' || c = '#'

def maxPort : Nat := 2147483647

def skipPort? : List Char → Option (List Char)
  | ':' :: rest =>
      let digits := rest.takeWhile Char.isDigit
      match Text.numberIn? 10 digits with
      | some port => if port ≤ maxPort then some (rest.dropWhile Char.isDigit) else none
      | none => none
  | rest => some rest

def skipHost? : List Char → Option (List Char)
  | '[' :: rest =>
      match rest.dropWhile (· ≠ ']') with
      | _ :: after => some after
      | [] => none
  | rest => some (skip [] rest)

def skipUser (input : List Char) : List Char :=
  match skip [':'] input with
  | '@' :: rest => rest
  | _ => input

def skipAuthority? (input : List Char) : Option (List Char) := do
  let rest ← skipPort? (← skipHost? (skipUser input))
  if mayFollowAuthority rest then some rest else none

def isHierarchy (firstAllowed : List Char) : List Char → Bool
  | '/' :: '/' :: rest => (skipAuthority? rest).any fun rest => (skipTail rest).isEmpty
  | [] => true
  | c :: rest =>
      if c = '/' || c = '?' || c = '#' then (skipTail (c :: rest)).isEmpty
      else
        match skipSome? firstAllowed (c :: rest) with
        | none => false
        | some after => mayFollowAuthority after && (skipTail after).isEmpty

def isSchemeChar (c : Char) : Bool :=
  c.isAlphanum || c = '+' || c = '-' || c = '.'

def isAbsolute (input : List Char) : Bool :=
  match input.dropWhile isSchemeChar with
  | ':' :: rest => (input.head?.any Char.isAlpha) && isHierarchy [':', '@'] rest
  | _ => false

def isRelative (input : List Char) : Bool :=
  isHierarchy ['@'] input

end ProcessDiagram.Xml.Address
