import ProcessDiagram.Xml.Scan

set_option autoImplicit false

namespace ProcessDiagram.Xml

-- The ampersand comes first, so that no entity written before it is escaped again.
def reserved : List (Char × List Char) :=
  [('&', ['&', 'a', 'm', 'p', ';']), ('<', ['&', 'l', 't', ';']), ('>', ['&', 'g', 't', ';']),
   ('"', ['&', 'q', 'u', 'o', 't', ';']), ('\'', ['&', 'a', 'p', 'o', 's', ';'])]

def replaceChar (target : Char) (replacement : List Char) (chars : List Char) : List Char :=
  chars.flatMap fun c => if c = target then replacement else [c]

def escapeChars (chars : List Char) : List Char :=
  reserved.foldl (fun chars (target, entity) => replaceChar target entity chars) chars

def escape (text : String) : String :=
  String.ofList (escapeChars text.toList)

inductive Piece where
  | literal (c : Char)
  | escaped (c : Char)
  | entity (name : List Char)
deriving DecidableEq, Repr

def charOfNumber? (number : Nat) : Option Char :=
  let c := Char.ofNat number
  if c.toNat = number && !isForbidden c then some c else none

def reference? (name : List Char) : Option Piece :=
  match name with
  | '#' :: 'x' :: digits => ((Text.hexNumber? digits).bind charOfNumber?).map Piece.escaped
  | '#' :: digits => ((Text.numberIn? 10 digits).bind charOfNumber?).map Piece.escaped
  | name => if isName name then some (.entity name) else none

-- The first argument holds what was read of an open reference, the last character first.
def piecesFrom : Option (List Char) → List Char → Option (List Piece)
  | none, [] => some []
  | some _, [] => none
  | none, c :: rest =>
      if c = '&' then piecesFrom (some []) rest
      else (piecesFrom none rest).map (Piece.literal c :: ·)
  | some read, c :: rest =>
      if c = ';' then do
        let piece ← reference? read.reverse
        let others ← piecesFrom none rest
        some (piece :: others)
      else piecesFrom (some (c :: read)) rest

def pieces? (text : List Char) : Option (List Piece) :=
  piecesFrom none text

def predefined? (name : List Char) : Option Char :=
  match name with
  | ['a', 'm', 'p'] => some '&'
  | ['l', 't'] => some '<'
  | ['g', 't'] => some '>'
  | ['q', 'u', 'o', 't'] => some '"'
  | ['a', 'p', 'o', 's'] => some '\''
  | _ => none

end ProcessDiagram.Xml
