import ProcessDiagram.Layout.Diagram

set_option autoImplicit false

namespace ProcessDiagram.Document

open Scalar

variable {Number : Type} [Scalar Number]

def nodeLabel (kind : NodeKind) (box : Box Number) : Box Number :=
  let below (shift gap width height : Int) : Box Number :=
    ⟨box.x + ofInt shift, box.y + box.height + ofInt gap, ofInt width, ofInt height⟩
  if kind.isEvent then below (-15) 6 66 27
  else if kind.isGateway then below (-25) 8 100 27
  else ⟨box.x + ofInt 5, box.y + box.height + ofInt 8, box.width - ofInt 10, ofInt 40⟩

def labelAnchor (first second : Point Number) (others : List (Point Number)) : Point Number :=
  match (first :: second :: others).reverse with
  | _ :: beforeLast :: _ :: _ => beforeLast
  | _ => ⟨half (first.x + second.x), half (first.y + second.y)⟩

def flowLabel (anchor : Point Number) : Box Number :=
  ⟨anchor.x + ofInt 5, anchor.y - ofInt 27 - ofInt 3, ofInt 100, ofInt 27⟩

end ProcessDiagram.Document
