import ProcessDiagram.Graph.Basic
import ProcessDiagram.Table

set_option autoImplicit false

namespace ProcessDiagram.Row

structure Walk where
  rows : Table String Nat := []
  next : Nat := 1
  waiting : List (String × Nat)

namespace Walk

def start (graph : Graph) : Walk where
  waiting :=
    (if graph.starts.isEmpty then graph.nodes.take 1 else graph.starts).map fun node => (node.id, 0)

def branches (row next : Nat) : List Edge → List (String × Nat)
  | [] => []
  | first :: others =>
      (first.target, row) :: others.zipIdx.map fun (edge, index) => (edge.target, next + index)

def step (graph : Graph) (walk : Walk) : Walk :=
  match walk.waiting with
  | [] => walk
  | (id, row) :: waiting =>
      if (Table.get? id walk.rows).isSome then { walk with waiting }
      else
        let edges := graph.outgoing id
        { rows := Table.put id row walk.rows
          next := walk.next + (edges.length - 1)
          waiting := branches row walk.next edges ++ waiting }

def run (graph : Graph) : Nat → Walk → Walk
  | 0, walk => walk
  | fuel + 1, walk => run graph fuel (walk.step graph)

def settle (walk : Walk) (id : String) : Walk :=
  if (Table.get? id walk.rows).isSome then walk
  else { walk with rows := Table.put id walk.next walk.rows, next := walk.next + 1 }

end Walk

-- Each start and the target of each edge is met at most once.
def ofGraph (graph : Graph) : Table String Nat :=
  let walk := (Walk.start graph).run graph (graph.nodes.length + graph.edges.length)
  (graph.ids.foldl Walk.settle walk).rows

end ProcessDiagram.Row
