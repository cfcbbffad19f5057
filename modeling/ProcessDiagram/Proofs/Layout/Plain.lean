import ProcessDiagram.Layout.Arrangement

set_option autoImplicit false

namespace ProcessDiagram

def Node.plain (node : Node) : Node where
  id := node.id
  elementId := ""
  kind := node.kind
  role := node.role

def Graph.plain (graph : Graph) : Graph where
  nodes := graph.nodes.map Node.plain
  edges := graph.edges
  archetype := graph.archetype

namespace Graph

variable (graph : Graph)

theorem plain_count : graph.plain.nodes.length = graph.nodes.length :=
  List.length_map _

theorem plain_ids : graph.plain.ids = graph.ids := by
  rw [ids, ids, plain, List.map_map]
  rfl

theorem plain_starts : graph.plain.starts = graph.starts.map Node.plain := by
  rw [starts, starts, ofKind, ofKind, plain, List.filter_map]
  rfl

theorem plain_gateways : graph.plain.hasGateways = graph.hasGateways := by
  rw [hasGateways, hasGateways, plain, List.any_map]
  rfl

end Graph

namespace Rank

variable (graph : Graph)

theorem run_plain (fuel : Nat) (sweep : Sweep) :
    Sweep.run graph.plain fuel sweep = Sweep.run graph fuel sweep := by
  induction fuel generalizing sweep with
  | zero => rfl
  | succ fuel ih =>
      simp only [Sweep.run, ih]
      rfl

theorem start_plain : Sweep.start graph.plain = Sweep.start graph := by
  rw [Sweep.start, Sweep.start, graph.plain_ids]
  rfl

theorem settle_plain (sweep : Sweep) : sweep.settle graph.plain = sweep.settle graph := by
  rw [Sweep.settle, Sweep.settle, graph.plain_ids, graph.plain_count]

theorem plain_ranks : ofGraph graph.plain = ofGraph graph := by
  rw [ofGraph, ofGraph, run_plain, start_plain, graph.plain_count]
  simp only [settle_plain]

end Rank

namespace Row

variable (graph : Graph)

theorem run_plain (fuel : Nat) (walk : Walk) :
    Walk.run graph.plain fuel walk = Walk.run graph fuel walk := by
  induction fuel generalizing walk with
  | zero => rfl
  | succ fuel ih =>
      rw [Walk.run, Walk.run, ih]
      rfl

theorem start_plain : Walk.start graph.plain = Walk.start graph := by
  have first : graph.plain.nodes.take 1 = (graph.nodes.take 1).map Node.plain :=
    List.map_take.symm
  rw [Walk.start, Walk.start, graph.plain_starts, List.isEmpty_map, first]
  by_cases none : graph.starts.isEmpty
  · rw [if_pos none, if_pos none, List.map_map]
    rfl
  · rw [if_neg none, if_neg none, List.map_map]
    rfl

theorem plain_rows : ofGraph graph.plain = ofGraph graph := by
  rw [ofGraph, ofGraph, run_plain, start_plain, graph.plain_ids, graph.plain_count]
  rfl

end Row

variable {Number : Type} [Scalar Number]

namespace Placement

theorem linear_plain (nodes : List Node) :
    (linear (nodes.map Node.plain) : Boxes Number) = linear nodes := by
  rw [linear, linear, List.zipIdx_map, List.map_map]
  rfl

theorem layered_plain (graph : Graph) :
    (layered graph.plain : Except String (Boxes Number)) = layered graph := by
  rw [layered, layered, Rank.plain_ranks, Row.plain_rows]
  simp only [Graph.plain, List.map_map]
  rfl

theorem by_role_plain (table : RoleTable Number) (nodes : List Node) :
    byRole table (nodes.map Node.plain) = byRole table nodes := by
  have left_over : unplaced table (nodes.map Node.plain) = (unplaced table nodes).map Node.plain :=
    List.filter_map
  rw [byRole, byRole, List.filterMap_map, left_over, park, List.zipIdx_map, List.foldl_map]
  rfl

end Placement

namespace Diagram

variable (tables : Table String (RoleTable Number)) (requested : Strategy) (graph : Graph)

theorem place_plain (strategy : Strategy) (free : strategy ≠ .lanes) :
    place tables strategy graph.plain = place tables strategy graph := by
  cases strategy with
  | lanes => exact absurd rfl free
  | archetype => exact congrArg Except.ok (Placement.by_role_plain _ graph.nodes)
  | layered => exact congrArg (Except.mapError _) (Placement.layered_plain graph)
  | linear => exact congrArg Except.ok (Placement.linear_plain graph.nodes)
  | auto => exact congrArg Except.ok (Placement.linear_plain graph.nodes)

variable (branched : graph.hasGateways = true)

include branched

omit [Scalar Number] in
theorem strategy_plain :
    strategyFor tables requested graph.plain = strategyFor tables requested graph ∧
      strategyFor tables requested graph ≠ .lanes := by
  have also : graph.plain.hasGateways = true := graph.plain_gateways.trans branched
  have table : tableFor? tables graph.plain = tableFor? tables graph := rfl
  rw [strategyFor, strategyFor, table]
  cases requested with
  | auto =>
      simp only [Strategy.resolve, branched, also, if_true, true_and]
      split <;> simp
  | lanes => simp [Strategy.resolve, branched, also]
  | archetype =>
      refine ⟨rfl, ?_⟩
      simp only [Strategy.resolve]
      split <;> simp
  | linear => exact ⟨rfl, nofun⟩
  | layered => exact ⟨rfl, nofun⟩

theorem of_graph_plain : ofGraph tables requested graph.plain = ofGraph tables requested graph := by
  obtain ⟨same, free⟩ := strategy_plain tables requested graph branched
  rw [ofGraph, ofGraph, same, place_plain tables graph _ free]
  rfl

end Diagram

end ProcessDiagram
