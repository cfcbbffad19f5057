import ProcessDiagram.Text.Basic

set_option autoImplicit false

namespace ProcessDiagram.Text

structure Encoding where
  names : List String
  decode? : List Nat → Option (List Char)

namespace Encoding

abbrev Scan := List Nat → Option (List Char × List Nat)

abbrev Step (State : Type) := State → List Nat → Option (List Char × State × List Nat)

def readSteps {State : Type} (step : Step State) : Nat → State → List Nat → Option (List Char)
  | _, _, [] => some []
  | 0, _, _ => none
  | fuel + 1, state, octets => do
      let (chars, state, rest) ← step state octets
      let others ← readSteps step fuel state rest
      some (chars ++ others)

def ofStep {State : Type} (names : List String) (start : State) (step : Step State) : Encoding where
  names := names
  decode? := fun octets => readSteps step octets.length start octets

def ofScan (names : List String) (scan : Scan) : Encoding :=
  ofStep names () fun _ octets => (scan octets).map fun (chars, rest) => (chars, (), rest)

def charOfCode? (code : Nat) : Option Char :=
  let c := Char.ofNat code
  if c.toNat = code then some c else none

def ascii? (octet : Nat) : Option Char :=
  if octet < 0x80 then some (Char.ofNat octet) else none

def scanMixed (single? : Nat → Option Char) (pair? : Nat → Nat → Option Char) : Scan
  | [] => none
  | first :: rest =>
      match single? first, rest with
      | some c, rest => some ([c], rest)
      | none, [] => none
      | none, second :: rest => (pair? first second).map fun c => ([c], rest)

def private? (start cell : Nat) : Option Char :=
  some (Char.ofNat (start + cell))

-- A grid is characters in rows, each row given by strips with its number and the column that they
-- begin at. A point in a strip is no character, and neither is a place outside of all.
abbrev Grid := List (Nat × Nat × String)

namespace Grid

def char? (grid : Grid) (row column : Nat) : Option Char :=
  grid.findSome? fun (number, first, cells) =>
    if number = row && first ≤ column then (cells.toList[column - first]?).filter (· ≠ '.')
    else none

def low? (grid : Grid) (first second : Nat) : Option Char :=
  if second < 0x21 then none else grid.char? first (second - 0x21)

def high? (grid : Grid) (first second : Nat) : Option Char :=
  if first < 0x80 || second < 0x80 then none else grid.low? (first - 0x80) (second - 0x80)

end Grid

-- A page has one octet for each character, in rows of sixteen code points in hexadecimal digits; a
-- hyphen is no character.
structure Page where
  names : List String
  -- The rows by the octets that they begin with; in any other row an octet is its code point.
  rows : List (Nat × String)

namespace Page

def rowCodes (row : String) : List (Option Nat) :=
  (splitAtMark ' ' row.toList).map hexNumber?

def char? (page : Page) (octet : Nat) : Option Char :=
  match page.rows.lookup (octet - octet % 16) with
  | none => some (Char.ofNat octet)
  | some row => ((rowCodes row)[octet % 16]?.getD none).map Char.ofNat

def scan (page : Page) : Scan
  | [] => none
  | octet :: rest => (page.char? octet).map fun c => ([c], rest)

def encoding (page : Page) : Encoding :=
  ofScan page.names page.scan

end Page

end Encoding

end ProcessDiagram.Text
