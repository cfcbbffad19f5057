import ProcessDiagram.Layout.Scalar

set_option autoImplicit false

namespace ProcessDiagram

structure Point (Number : Type) where
  x : Number
  y : Number
deriving DecidableEq, Repr

structure Box (Number : Type) where
  x : Number
  y : Number
  width : Number
  height : Number
deriving DecidableEq, Repr

namespace Box

open Scalar

variable {Number : Type} [Scalar Number]

def right (box : Box Number) : Number :=
  box.x + box.width

def bottom (box : Box Number) : Number :=
  box.y + box.height

def center (box : Box Number) : Point Number :=
  ⟨box.x + half box.width, box.y + half box.height⟩

def rightAnchor (box : Box Number) : Point Number :=
  ⟨box.x + box.width, box.y + half box.height⟩

def leftAnchor (box : Box Number) : Point Number :=
  ⟨box.x, box.y + half box.height⟩

def centeredAt (centerX centerY width height : Number) : Box Number :=
  ⟨centerX - half width, centerY - half height, width, height⟩

def overlaps (box other : Box Number) : Bool :=
  box.x < other.right && other.x < box.right && box.y < other.bottom && other.y < box.bottom

def nearOutline (box : Box Number) (tolerance : Number) (point : Point Number) : Bool :=
  let within := box.x - tolerance ≤ point.x && point.x ≤ box.x + box.width + tolerance &&
    box.y - tolerance ≤ point.y && point.y ≤ box.y + box.height + tolerance
  let besideSide := magnitude (point.x - box.x) ≤ tolerance ||
    magnitude (point.x - box.x - box.width) ≤ tolerance
  let besideEdge := magnitude (point.y - box.y) ≤ tolerance ||
    magnitude (point.y - box.y - box.height) ≤ tolerance
  within && (besideSide || besideEdge)

def tolerance : Number :=
  half (ofInt 1)

def bounds : List (Box Number) → Option (Number × Number × Number × Number)
  | [] => none
  | first :: rest =>
      some (least first.x (rest.map Box.x), least first.y (rest.map Box.y),
        greatest first.right (rest.map right), greatest first.bottom (rest.map bottom))

end Box

end ProcessDiagram
