import ProcessDiagram.Decimal.Rounding
import ProcessDiagram.Fault
import ProcessDiagram.Json.Reader
import ProcessDiagram.Layout.Arrangement
import ProcessDiagram.Text.Basic

set_option autoImplicit false

namespace ProcessDiagram

namespace Coordinate

def wordOf (chars : List Char) : Option Float :=
  match String.ofList (chars.map Char.toLower) with
  | "inf" | "infinity" => some (Json.infinity false)
  | "nan" => some Json.notANumber
  | _ => none

def unsigned? (negative : Bool) (chars : List Char) : Option Float :=
  let whole := chars.takeWhile Json.isDigit
  let rest := chars.drop whole.length
  let (fraction, rest) := match rest with
    | '.' :: more => (more.takeWhile Json.isDigit, more.dropWhile Json.isDigit)
    | _ => ([], rest)
  let (exponent, rest) := Json.readExponent rest
  if (whole ++ fraction).isEmpty || !rest.isEmpty then none
  else
    some (Decimal.ofScientific negative (Json.digitsValue (whole ++ fraction))
      (exponent.getD 0 - fraction.length))

def ofChars? (chars : List Char) : Option Float :=
  match chars with
  | '-' :: rest => ((wordOf rest).map fun value => -value).or (unsigned? true rest)
  | '+' :: rest => (wordOf rest).or (unsigned? false rest)
  | rest => (wordOf rest).or (unsigned? false rest)

def ungrouped? (chars : List Char) : Option (List Char) :=
  if !chars.contains '_' || chars.head? = some '_' || chars.getLast? = some '_' ||
    Text.holdsChars ['_', '_'] chars then none
  else some (chars.filter (· ≠ '_'))

-- White space may stand around a number, or underscores in it, but not both.
def ofText? (chars : List Char) : Option Float :=
  (ofChars? (Text.trimBoth Text.isWhite chars)).or ((ungrouped? chars).bind ofChars?)

def read : Json → Except Fault.Cause Float
  | .integer value =>
      if Decimal.isTooLarge value then .error .noNumber else .ok (Decimal.ofInt value)
  | .decimal value => .ok value
  | .bool value => .ok (if value then 1 else 0)
  | .text value =>
      match ofText? value.toList with
      | some number => .ok number
      | none => .error .unreadableNumber
  | _ => .error .noNumber

def readField (key : String) (positive : Bool) (value : Option Json) : Except Fault Float :=
  match value with
  | none => .error ⟨[key], .missing⟩
  | some value =>
      match read value with
      | .error cause => .error ⟨[key], cause⟩
      | .ok number => if positive && !(0 < number) then .error ⟨[key], .notPositive⟩ else .ok number

end Coordinate

def Point.read (data : Json) : Except (List Fault) (Point Float) :=
  let x := Coordinate.readField "x" false data.items[0]?
  let y := Coordinate.readField "y" false data.items[1]?
  match x, y with
  | .ok x, .ok y => .ok ⟨x, y⟩
  | x, y => .error ([Fault.of? x, Fault.of? y].filterMap fun fault => fault)

namespace Box

def ofItems (items : List Json) : Except (List Fault) (Box Float) :=
  let x := Coordinate.readField "x" false items[0]?
  let y := Coordinate.readField "y" false items[1]?
  let width := Coordinate.readField "width" true items[2]?
  let height := Coordinate.readField "height" true items[3]?
  match x, y, width, height with
  | .ok x, .ok y, .ok width, .ok height => .ok ⟨x, y, width, height⟩
  | x, y, width, height =>
      .error ([Fault.of? x, Fault.of? y, Fault.of? width, Fault.of? height].filterMap
        fun fault => fault)

def read (data : Json) : Except (List Fault) (Box Float) :=
  ofItems data.items

end Box

namespace RoleTable

-- A table of places is a record: for each role the two coordinates of a corner. A corner that cannot
-- be read stands at the origin; `check` tells whether one is needed.
def read (data : Json) : RoleTable Float :=
  (data.fields.filter fun entry => !entry.2.isNull).map fun (role, corner) =>
    match (Point.read corner).toOption with
    | some point => (role, point.x, point.y)
    | none => (role, 0, 0)

def readAll (data : Json) : Table String (RoleTable Float) :=
  data.fields.map fun (archetype, table) => (archetype, read table)

def checkNode (table : Json) (node : Node) : Except (List Fault) Unit :=
  match node.role.bind fun role => if role = "" then none else table.field? role with
  | none | some .null => .ok ()
  | some corner => (Point.read corner).map fun _ => ()

def check (data : Json) (requested : Strategy) (graph : Graph) : Except (List Fault) Unit :=
  match Diagram.strategyFor (readAll data) requested graph with
  | .archetype => graph.nodes.forM (checkNode (data.field (graph.archetype.getD "")))
  | _ => .ok ()

end RoleTable

namespace Diagram

def readBox (data : Json) : Except (List Fault) (String × Box Float) :=
  match data.items with
  | [] => .error [⟨["positions"], .missing⟩]
  | id :: items => do
      let box ← Box.ofItems items
      return (id.text?.getD "", box)

def readRoute (data : Json) : Except (List Fault) (Int × List (Point Float)) :=
  match data.items with
  | .integer index :: points => do
      let points ← points.mapM Point.read
      return (index, points)
  | _ => .error [⟨["edges"], .missing⟩]

def readStrategy (data : Json) : Except (List Fault) Strategy :=
  match data.field? "strategy" with
  | none => .ok .linear
  | some value =>
      match value.text?.bind (memberNamed? Strategy.name Strategy.all) with
      | some strategy => .ok strategy
      | none => .error [⟨["strategy"], .noMember⟩]

def read (data : Json) : Except (List Fault) (Diagram Float) := do
  let boxes ← (data.field "positions").items.mapM readBox
  let routes ← (data.field "edges").items.mapM readRoute
  let strategy ← readStrategy data
  return ⟨strategy, Table.ofList boxes, Table.ofList routes⟩

end Diagram

end ProcessDiagram
