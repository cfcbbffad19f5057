import ProcessDiagram.Graph.Basic
import ProcessDiagram.Member

set_option autoImplicit false

namespace ProcessDiagram

inductive Strategy where
  | auto
  | linear
  | lanes
  | layered
  | archetype
deriving DecidableEq, Repr

namespace Strategy

def name : Strategy → String
  | .auto => "auto"
  | .linear => "linear"
  | .lanes => "lanes"
  | .layered => "layered"
  | .archetype => "archetype"

def all : List Strategy :=
  [.auto, .linear, .lanes, .layered, .archetype]

def named (wanted : String) : Except UnknownMember Strategy :=
  memberNamed "LayoutStrategy" name all wanted

end Strategy

def Graph.actors (graph : Graph) : List String :=
  ((graph.nodes.map Node.actor).filter (· ≠ "")).eraseDups

namespace Strategy

-- What a request comes to, given whether the graph has a table of places: a graph with gateways is
-- never laid out in lanes, and one actor alone needs none.
def resolve (requested : Strategy) (hasTable : Bool) (graph : Graph) : Strategy :=
  match requested with
  | .auto =>
      if graph.hasGateways then if hasTable then .archetype else .layered else .linear
  | .lanes => if graph.hasGateways || graph.actors.length < 2 then .linear else .lanes
  | .archetype => if hasTable then .archetype else .layered
  | .linear => .linear
  | .layered => .layered

end Strategy

end ProcessDiagram
