import ProcessDiagram.Layout.Geometry
import ProcessDiagram.Layout.Strategy
import ProcessDiagram.Table

set_option autoImplicit false

namespace ProcessDiagram

structure Diagram (Number : Type) where
  strategy : Strategy
  boxes : Table String (Box Number) := []
  routes : Table Int (List (Point Number)) := []
deriving Repr

namespace Diagram

variable {Number : Type} [Scalar Number]

def bounds (diagram : Diagram Number) : Number × Number × Number × Number :=
  let zero := Scalar.ofInt 0
  (Box.bounds (diagram.boxes.map Prod.snd)).getD (zero, zero, zero, zero)

def overlapsIn : Table String (Box Number) → List (String × String)
  | [] => []
  | (id, box) :: rest =>
      (rest.filter fun entry => box.overlaps entry.2).map (fun entry => (id, entry.1)) ++
        overlapsIn rest

def overlappingPairs (diagram : Diagram Number) : List (String × String) :=
  overlapsIn diagram.boxes

end Diagram

end ProcessDiagram
