import ProcessDiagram.Layout.Geometry

set_option autoImplicit false

namespace ProcessDiagram.Route

open Scalar

variable {Number : Type} [Scalar Number]

def bendRatio : Number :=
  ofInt 3 / ofInt 5

def between (source target : Box Number) : List (Point Number) :=
  let start := source.rightAnchor
  let finish := target.leftAnchor
  let rise := magnitude (finish.y - start.y)
  let run := magnitude (finish.x - start.x)
  if rise ≤ ofInt 10 && ofInt 50 < run then [start, ⟨finish.x, start.y⟩]
  else if ofInt 80 < rise && ofInt 100 < run then
    let bend := start.x + (finish.x - start.x) * bendRatio
    [start, ⟨bend, start.y⟩, ⟨bend, finish.y⟩, finish]
  else [start, finish]

end ProcessDiagram.Route
