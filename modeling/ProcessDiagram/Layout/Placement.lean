import ProcessDiagram.Layout.Diagram
import ProcessDiagram.Layout.Rank
import ProcessDiagram.Layout.Row

set_option autoImplicit false

namespace ProcessDiagram

variable {Number : Type} [Scalar Number]

def NodeKind.size (kind : NodeKind) (taskWidth : Number) : Number × Number :=
  if kind.isEvent then (Scalar.ofInt 36, Scalar.ofInt 36)
  else if kind.isGateway then (Scalar.ofInt 50, Scalar.ofInt 50)
  else (taskWidth, Scalar.ofInt 80)

-- Boxes by the ids of nodes; of nodes with one id the last box counts.
abbrev Boxes (Number : Type) := Table String (Box Number)

abbrev RoleTable (Number : Type) := Table String (Number × Number)

namespace Placement

open Scalar

def left : Nat := 150

def columnWidth : Nat := 200

def taskWidth : Nat := 120

def column (index : Nat) : Nat :=
  left + index * columnWidth

def baseLine (kind : NodeKind) : Int :=
  if kind.isTask then 180 else if kind.isGateway then 190 else 200

def cornerAt (kind : NodeKind) (x y : Number) : Box Number :=
  let (width, height) := kind.size (ofInt taskWidth)
  ⟨x, y, width, height⟩

def linear (nodes : List Node) : Boxes Number :=
  Table.ofList <| nodes.zipIdx.map fun (node, index) =>
    (node.id, cornerAt node.kind (ofInt (column index)) (ofInt (baseLine node.kind)))

def lanesFrom (actors : List String) (lane : Nat) : List Node → List Nat
  | [] => []
  | node :: rest =>
      let lane := if node.actor = "" then lane else actors.idxOf node.actor
      lane :: lanesFrom actors lane rest

def laneTaskWidth : Nat := 100

def lanes (graph : Graph) : Boxes Number :=
  let laneOf := lanesFrom graph.actors 0 graph.nodes
  Table.ofList <| (graph.nodes.zip laneOf).zipIdx.map fun ((node, lane), index) =>
    let (width, height) := node.kind.size (ofInt laneTaskWidth)
    let centerX := ofInt (column index + laneTaskWidth / 2)
    let centerY := ofInt (100 + lane * 150 + 75)
    (node.id, Box.centeredAt centerX centerY width height)

def layered (graph : Graph) : Except String (Boxes Number) := do
  let ranks ← Rank.ofGraph graph
  let rows := Row.ofGraph graph
  return Table.ofList <| graph.nodes.map fun node =>
    let (width, height) := node.kind.size (ofInt taskWidth)
    let rank := (Table.get? node.id ranks).getD 0
    let row := (Table.get? node.id rows).getD 0
    let centerX := ofInt (column rank + taskWidth / 2)
    let centerY := ofInt (220 + row * 150)
    (node.id, Box.centeredAt centerX centerY width height)

def corner? (table : RoleTable Number) (node : Node) : Option (Number × Number) :=
  match node.role with
  | some role => if role = "" then none else Table.get? role table
  | none => none

def unplaced (table : RoleTable Number) (nodes : List Node) : List Node :=
  nodes.filter fun node => (corner? table node).isNone

def park (y : Number) (boxes : Boxes Number) (nodes : List Node) : Boxes Number :=
  nodes.zipIdx.foldl (fun boxes (node, index) =>
    Table.put node.id (cornerAt node.kind (ofInt (column index)) y) boxes) boxes

def lowerEnd (boxes : Boxes Number) : Number :=
  match Box.bounds (boxes.map Prod.snd) with
  | some (_, _, _, bottom) => bottom
  | none => ofInt 200

def byRole (table : RoleTable Number) (nodes : List Node) : Boxes Number :=
  let placed := Table.ofList <| nodes.filterMap fun node =>
    (corner? table node).map fun (x, y) => (node.id, cornerAt node.kind x y)
  park (lowerEnd placed + ofInt 100) placed (unplaced table nodes)

end Placement

end ProcessDiagram
