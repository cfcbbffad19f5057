import ProcessDiagram.Proofs.Layout.FirstBranch

set_option autoImplicit false

namespace ProcessDiagram.Row

namespace Walk

-- A walk with no bound to its length: it goes on as long as something waits.
inductive Runs (graph : Graph) : Walk → Walk → Prop
  | stop (walk : Walk) (ended : walk.waiting = []) : Runs graph walk walk
  | go (walk last : Walk) (on : walk.waiting ≠ []) (further : Runs graph (walk.step graph) last) :
      Runs graph walk last

variable (graph : Graph)

theorem run_runs (fuel : Nat) (walk : Walk) (ended : (walk.run graph fuel).waiting = []) :
    Runs graph walk (walk.run graph fuel) := by
  induction fuel generalizing walk with
  | zero => exact .stop walk ended
  | succ fuel ih =>
      by_cases done : walk.waiting = []
      · rw [run_ended graph (fuel + 1) walk done]
        exact .stop walk done
      · exact .go walk _ done (ih (walk.step graph) ended)

structure Placed (walk : Walk) : Prop where
  single : (Table.keys walk.rows).Nodup
  known : ∀ id ∈ Table.keys walk.rows, id ∈ graph.ids

structure Proper (walk : Walk) : Prop extends Placed graph walk where
  knownWaiting : ∀ id ∈ walk.waiting.map Prod.fst, id ∈ graph.ids

theorem start_proper : Proper graph (start graph) := by
  refine ⟨⟨List.nodup_nil, fun id none => (nomatch none)⟩, ?_⟩
  intro id waits
  have nodes : (start graph).waiting.map Prod.fst =
      (if graph.starts.isEmpty then graph.nodes.take 1 else graph.starts).map Node.id := by
    rw [start, List.map_map]
    rfl
  rw [nodes] at waits
  obtain ⟨node, member, rfl⟩ := List.mem_map.mp waits
  split at member
  · exact List.mem_map_of_mem (List.mem_of_mem_take member)
  · exact List.mem_map_of_mem (List.mem_filter.mp member).1

theorem put_placed (walk : Walk) (id : String) (row low : Nat) (waiting : List (String × Nat))
    (placed : Placed graph walk) (known : id ∈ graph.ids) :
    Placed graph ⟨Table.put id row walk.rows, low, waiting⟩ := by
  refine ⟨Table.put_distinct id row walk.rows placed.single, ?_⟩
  intro other member
  rcases (Table.mem_keys_put id other row walk.rows).mp member with rfl | old
  · exact known
  · exact placed.known other old

theorem settle_placed (walk : Walk) (id : String) (placed : Placed graph walk)
    (known : id ∈ graph.ids) : Placed graph (walk.settle id) := by
  rw [settle]
  split
  · exact placed
  · exact put_placed graph walk id walk.next _ _ placed known

theorem settle_all_placed (ids : List String) (walk : Walk) (placed : Placed graph walk)
    (known : ∀ id ∈ ids, id ∈ graph.ids) : Placed graph (ids.foldl settle walk) := by
  induction ids generalizing walk with
  | nil => exact placed
  | cons id rest ih =>
      rw [List.forall_mem_cons] at known
      exact ih _ (settle_placed graph walk id placed known.1) known.2

section Connected

variable (connected : ∀ edge ∈ graph.edges, edge.source ∈ graph.ids ∧ edge.target ∈ graph.ids)

include connected

theorem step_proper (walk : Walk) (proper : Proper graph walk) : Proper graph (walk.step graph) := by
  obtain ⟨rows, low, waiting⟩ := walk
  cases waiting with
  | nil => exact proper
  | cons head rest =>
      obtain ⟨id, row⟩ := head
      obtain ⟨known, knownRest⟩ := List.forall_mem_cons.mp proper.knownWaiting
      by_cases met : id ∈ Table.keys rows
      · rw [step_met graph rows low row id rest met]
        exact ⟨⟨proper.single, proper.known⟩, knownRest⟩
      · rw [step_fresh graph rows low row id rest met, ← Table.put_fresh id row rows met]
        refine ⟨put_placed graph _ id row _ _ proper.toPlaced known, ?_⟩
        intro other waits
        rw [List.map_append, List.mem_append, branches_targets] at waits
        rcases waits with target | old
        · obtain ⟨edge, leaves, rfl⟩ := List.mem_map.mp target
          exact (connected edge (List.mem_filter.mp leaves).1).2
        · exact knownRest other old

theorem run_proper (fuel : Nat) (walk : Walk) (proper : Proper graph walk) :
    Proper graph (walk.run graph fuel) := by
  induction fuel generalizing walk with
  | zero => exact proper
  | succ fuel ih => exact ih _ (step_proper graph connected walk proper)

end Connected

end Walk

section Connected

variable (graph : Graph)
  (connected : ∀ edge ∈ graph.edges, edge.source ∈ graph.ids ∧ edge.target ∈ graph.ids)

include connected

theorem rows_placed : Walk.Placed graph (graph.ids.foldl Walk.settle (Walk.whole graph)) :=
  Walk.settle_all_placed graph graph.ids _
    (Walk.run_proper graph connected _ _ (Walk.start_proper graph)).toPlaced fun _ member => member

theorem one_row (id : String) (member : id ∈ graph.ids) : ∃! row, (id, row) ∈ ofGraph graph := by
  have met : id ∈ Table.keys (ofGraph graph) := Walk.settle_all_meets graph.ids _ id member
  have single : (Table.keys (ofGraph graph)).Nodup := (rows_placed graph connected).single
  obtain ⟨row, placed⟩ := (Table.mem_keys id _).mp met
  refine ⟨row, placed, ?_⟩
  intro other again
  have found := Table.get_of_mem id row _ single placed
  rw [Table.get_of_mem id other _ single again] at found
  exact Option.some.inj found

/-- The walk that gives rows ends, whatever cycles and merges there are; every node has one row, and nodes
share a row only along first edges. -/
theorem rows_follow_first_edges (sole : graph.starts.length ≤ 1) :
    (∃ last, Walk.Runs graph (Walk.start graph) last ∧
      ofGraph graph = (graph.ids.foldl Walk.settle last).rows) ∧
    (∀ id ∈ graph.ids, ∃! row, (id, row) ∈ ofGraph graph) ∧
    (∀ entry ∈ ofGraph graph, entry.1 ∈ graph.ids) ∧
    ∀ first second row, (first, row) ∈ ofGraph graph → (second, row) ∈ ofGraph graph →
      first ≠ second → Along graph first second ∨ Along graph second first := by
  refine ⟨⟨Walk.whole graph, ?_, rfl⟩, one_row graph connected, ?_, ?_⟩
  · exact Walk.run_runs graph _ _ (Walk.whole_ended graph)
  · intro entry member
    exact (rows_placed graph connected).known entry.1 (List.mem_map_of_mem member)
  · intro first second row member other apart
    exact same_row_along graph sole first second row member other apart

end Connected

/-- A start, two edges to one node, a way back, a merge and a node that nothing leads to. -/
def tangledGraph : Graph where
  nodes := [
    { id := "a", elementId := "A", kind := .startEvent },
    { id := "b", elementId := "B", kind := .exclusiveGateway },
    { id := "c", elementId := "C", kind := .task },
    { id := "d", elementId := "D", kind := .task },
    { id := "e", elementId := "E", kind := .endEvent },
    { id := "f", elementId := "F", kind := .task }]
  edges := [
    { source := "a", target := "b" }, { source := "b", target := "c" },
    { source := "b", target := "c" }, { source := "b", target := "d" },
    { source := "c", target := "b" }, { source := "c", target := "d" },
    { source := "d", target := "e" }, { source := "f", target := "d" }]

theorem tangled_rows :
    (∀ edge ∈ tangledGraph.edges,
      edge.source ∈ tangledGraph.ids ∧ edge.target ∈ tangledGraph.ids) ∧
    tangledGraph.starts.length = 1 ∧
    ofGraph tangledGraph = [("a", 0), ("b", 0), ("c", 0), ("d", 3), ("e", 3), ("f", 4)] ∧
    ∀ first second row, (first, row) ∈ ofGraph tangledGraph →
      (second, row) ∈ ofGraph tangledGraph → first ≠ second →
        Along tangledGraph first second ∨ Along tangledGraph second first := by
  have connected : ∀ edge ∈ tangledGraph.edges,
      edge.source ∈ tangledGraph.ids ∧ edge.target ∈ tangledGraph.ids := by decide
  have sole : tangledGraph.starts.length = 1 := rfl
  refine ⟨connected, sole, by decide +kernel, ?_⟩
  exact (rows_follow_first_edges tangledGraph connected sole.le).2.2.2

end ProcessDiagram.Row
