import ProcessDiagram.Graph.Basic

set_option autoImplicit false

namespace ProcessDiagram

namespace Reach

variable {Place : Type} [DecidableEq Place]

def next (links : List (Place × Place)) (place : Place) : List Place :=
  (links.filter fun link => link.1 = place).map Prod.snd

def visit (links : List (Place × Place)) : Nat → List Place → List Place → List Place
  | 0, _, seen => seen
  | _ + 1, [], seen => seen
  | fuel + 1, place :: waiting, seen =>
      if place ∈ seen then visit links fuel waiting seen
      else visit links fuel (next links place ++ waiting) (place :: seen)

-- A link is followed at most once, so one step more than there are links is enough.
def reachable (links : List (Place × Place)) (start : Place) : List Place :=
  visit links (links.length + 1) [start] []

end Reach

namespace Graph

def pathsFrom (graph : Graph) : Nat → List String → String → List (List Node)
  | 0, _, _ => []
  | fuel + 1, visited, id =>
      match graph.node? id with
      | none => []
      | some node =>
          if id ∈ visited then []
          else
            match graph.outgoing id with
            | [] => [[node]]
            | edges =>
                edges.flatMap fun edge =>
                  (pathsFrom graph fuel (id :: visited) edge.target).map (node :: ·)

-- A path is never longer than the list of nodes.
def paths (graph : Graph) : List (List Node) :=
  graph.starts.flatMap fun start => graph.pathsFrom graph.nodes.length [] start.id

def reachable (graph : Graph) (id : String) : List String :=
  Reach.reachable graph.links id

end Graph

end ProcessDiagram
