import ProcessDiagram.Graph.Basic
import ProcessDiagram.Table

set_option autoImplicit false

namespace ProcessDiagram.Rank

-- The ranks so far, how many edges to each node are still to follow, and the nodes to take next.
structure Sweep where
  ranks : Table String Nat
  remaining : Table String Int
  queue : List String
  taken : Nat := 0

namespace Sweep

def start (graph : Graph) : Sweep where
  ranks := Table.ofList (graph.ids.map fun id => (id, 0))
  remaining := Table.ofList (graph.ids.map fun id => (id, ((graph.incoming id).length : Int)))
  queue := graph.ids.filter fun id => (graph.incoming id).isEmpty

-- The rank of the source is looked up for each edge anew: an edge to itself may have raised it.
def follow (sweep : Sweep) (edge : Edge) : Except String Sweep :=
  match Table.get? edge.target sweep.ranks, Table.get? edge.target sweep.remaining with
  | some known, some left =>
      let rank := (Table.get? edge.source sweep.ranks).getD 0
      .ok { sweep with
        ranks := Table.put edge.target (max known (rank + 1)) sweep.ranks
        remaining := Table.put edge.target (left - 1) sweep.remaining
        queue := if left - 1 = 0 then sweep.queue ++ [edge.target] else sweep.queue }
  | _, _ => .error edge.target

def run (graph : Graph) : Nat → Sweep → Except String Sweep
  | 0, sweep => .ok sweep
  | fuel + 1, sweep =>
      match sweep.queue with
      | [] => .ok sweep
      | id :: queue => do
          let sweep := { sweep with queue, taken := sweep.taken + 1 }
          let sweep ← (graph.outgoing id).foldlM follow sweep
          run graph fuel sweep

def settle (graph : Graph) (sweep : Sweep) : Table String Nat :=
  if sweep.taken = graph.nodes.length then sweep.ranks
  else
    graph.ids.zipIdx.foldl (fun ranks (id, order) =>
      if 0 < (Table.get? id sweep.remaining).getD 0 then
        Table.put id (max ((Table.get? id ranks).getD 0) order) ranks
      else ranks) sweep.ranks

end Sweep

-- Each node is in the queue at most once at the start and at most once later.
def ofGraph (graph : Graph) : Except String (Table String Nat) := do
  let sweep ← (Sweep.start graph).run graph (2 * graph.nodes.length)
  return sweep.settle graph

end ProcessDiagram.Rank
