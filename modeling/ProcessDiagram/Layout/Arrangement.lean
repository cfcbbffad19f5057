import ProcessDiagram.Layout.Placement
import ProcessDiagram.Layout.Route
import ProcessDiagram.Text.Quoted

set_option autoImplicit false

namespace ProcessDiagram

inductive ArrangementFailure where
  -- The ranks of a graph need the target of an edge, which is no node.
  | unknownTarget (id : String)
  | withoutPosition (index : Nat) (edge : Edge)
deriving DecidableEq, Repr

def ArrangementFailure.message : ArrangementFailure → String
  | .unknownTarget id => Text.quote id
  | .withoutPosition index edge =>
      "Edge " ++ toString index ++ " (" ++ edge.source ++ " -> " ++ edge.target ++
        ") connects a node without a position"

namespace Diagram

variable {Number : Type} [Scalar Number]

def tableFor? (tables : Table String (RoleTable Number)) (graph : Graph) :
    Option (RoleTable Number) :=
  graph.archetype.bind fun archetype => Table.get? archetype tables

def strategyFor (tables : Table String (RoleTable Number)) (requested : Strategy) (graph : Graph) :
    Strategy :=
  requested.resolve (tableFor? tables graph).isSome graph

def place (tables : Table String (RoleTable Number)) (strategy : Strategy) (graph : Graph) :
    Except ArrangementFailure (Boxes Number) :=
  match strategy with
  | .archetype => .ok (Placement.byRole ((tableFor? tables graph).getD []) graph.nodes)
  | .layered => (Placement.layered graph).mapError ArrangementFailure.unknownTarget
  | .lanes => .ok (Placement.lanes graph)
  | .linear | .auto => .ok (Placement.linear graph.nodes)

def routeEdge (boxes : Boxes Number) (entry : Edge × Nat) :
    Except ArrangementFailure (Int × List (Point Number)) :=
  let (edge, index) := entry
  match Table.get? edge.source boxes, Table.get? edge.target boxes with
  | some source, some target => .ok ((index : Int), Route.between source target)
  | _, _ => .error (.withoutPosition index edge)

def ofGraph (tables : Table String (RoleTable Number)) (requested : Strategy) (graph : Graph) :
    Except ArrangementFailure (Diagram Number) := do
  let strategy := strategyFor tables requested graph
  let boxes ← place tables strategy graph
  let routes ← graph.edges.zipIdx.mapM (routeEdge boxes)
  return ⟨strategy, boxes, routes⟩

def notice? (tables : Table String (RoleTable Number)) (requested : Strategy) (graph : Graph) :
    Option String :=
  match strategyFor tables requested graph, tableFor? tables graph with
  | .archetype, some table =>
      match (Placement.unplaced table graph.nodes).length with
      | 0 => none
      | count =>
          some (toString count ++ " node(s) have no entry in the '" ++
            graph.archetype.getD "" ++ "' layout table")
  | _, _ => none

end Diagram

end ProcessDiagram
