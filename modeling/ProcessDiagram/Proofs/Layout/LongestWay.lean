import Mathlib.Data.List.Chain
import Mathlib.Order.Bounds.Defs
import ProcessDiagram.Proofs.Layout.Overlap

set_option autoImplicit false

namespace ProcessDiagram

-- Edges one after another, the last one to the given node. Without edges a way is at its end.
structure Graph.WayTo (graph : Graph) (id : String) (way : List Edge) : Prop where
  inside : ∀ edge ∈ way, edge ∈ graph.edges
  joined : way.IsChain fun first second => first.target = second.source
  ends : ∀ last ∈ way.getLast?, last.target = id

namespace Rank

variable (graph : Graph)

def lengthsTo (id : String) : Set Nat :=
  {length | ∃ way, graph.WayTo id way ∧ way.length = length}

theorem way_on (way : List Edge) (edge : Edge) (id : String) :
    graph.WayTo id (way ++ [edge]) ↔
      edge ∈ graph.edges ∧ edge.target = id ∧ graph.WayTo edge.source way := by
  constructor
  · intro whole
    refine ⟨whole.inside edge (List.mem_append_right _ List.mem_cons_self),
      whole.ends edge (by simp),
      fun other member => whole.inside other (List.mem_append_left _ member),
      whole.joined.left_of_append, ?_⟩
    exact fun last final => (List.isChain_append.mp whole.joined).2.2 last final edge (by simp)
  · rintro ⟨member, target, before⟩
    refine ⟨?_, ?_, ?_⟩
    · intro other inside
      rcases List.mem_append.mp inside with earlier | last
      · exact before.inside other earlier
      · rw [List.mem_singleton.mp last]
        exact member
    · refine List.isChain_append.mpr ⟨before.joined, .singleton edge, ?_⟩
      intro last final other first
      cases (Option.mem_some_iff.mp first)
      exact before.ends last final
    · intro last final
      rw [List.getLast?_concat, Option.mem_some_iff] at final
      rw [← final, target]

theorem approach_way (length : Nat) (id : String) (approach : Approach graph length id) :
    ∃ way, graph.WayTo id way ∧ way.length = length := by
  induction approach with
  | here id => exact ⟨[], ⟨fun _ none => (nomatch none), .nil, fun _ none => (nomatch none)⟩, rfl⟩
  | step length edge member settled _ ih =>
      obtain ⟨way, before, count⟩ := ih
      refine ⟨way ++ [edge], (way_on graph way edge _).mpr ⟨member, rfl, before⟩, ?_⟩
      rw [List.length_append, count, List.length_singleton]

theorem way_approach (acyclic : Acyclic graph) (way : List Edge) (id : String)
    (leads : graph.WayTo id way) : Approach graph way.length id := by
  induction way using List.reverseRecOn generalizing id with
  | nil => exact .here id
  | append_singleton way edge ih =>
      obtain ⟨member, rfl, before⟩ := (way_on graph way edge id).mp leads
      rw [List.length_append, List.length_singleton]
      exact .step way.length edge member (acyclic_settled graph acyclic edge.source)
        (ih edge.source before)

theorem column_greatest (acyclic : Acyclic graph) (id : String) (rank : Nat)
    (column : InColumn graph id rank) : IsGreatest (lengthsTo graph id) rank := by
  cases column with
  | leftOver _ cyclic _ => exact absurd (acyclic_settled graph acyclic id) cyclic
  | settled _ _ longest =>
      refine ⟨approach_way graph rank id longest.reached, ?_⟩
      rintro length ⟨way, leads, rfl⟩
      exact longest.bound way.length (way_approach graph acyclic way id leads)

end Rank

theorem Box.centered_center (centerX centerY width height : ℚ) :
    (Box.centeredAt centerX centerY width height).center = ⟨centerX, centerY⟩ := by
  simp only [Box.center, Box.centeredAt, Point.mk.injEq]
  exact ⟨sub_add_cancel _ _, sub_add_cancel _ _⟩

def Row.height (row : Nat) : ℚ :=
  220 + row * 150

theorem Placement.layered_center (ranks : Table String Nat) (graph : Graph) (node : Node) :
    (layeredBox ranks (Row.ofGraph graph) node : Box ℚ).center =
      ⟨column (Rank.rankOf ranks node.id) + 60, Row.height (Row.rowOf graph node.id)⟩ := by
  rw [layeredBox, Box.centered_center, ← Rank.rankOf, ← Row.rowOf,
    half_column (Rank.rankOf ranks node.id) taskWidth 60 rfl]
  exact congrArg _ ((Scalar.of_nat _).trans (by rw [Row.height]; push_cast; rfl))

namespace Diagram

def middle? (diagram : Diagram ℚ) (id : String) : Option (Point ℚ) :=
  (Table.get? id diagram.boxes).map Box.center

theorem layers_drawn (tables : Table String (RoleTable ℚ)) (requested : Strategy) (graph : Graph)
    (layers : strategyFor tables requested graph = .layered) (distinct : graph.ids.Nodup)
    (connected : ∀ edge ∈ graph.edges, edge.source ∈ graph.ids ∧ edge.target ∈ graph.ids)
    (ranks : Table String Nat) (found : Rank.ofGraph graph = .ok ranks) :
    ∃ diagram : Diagram ℚ, ofGraph tables requested graph = .ok diagram ∧
      diagram.boxes = graph.nodes.map fun node =>
        (node.id, Placement.layeredBox ranks (Row.ofGraph graph) node) := by
  obtain ⟨boxes, placed, whole⟩ :=
    place_ok tables (strategyFor tables requested graph) graph distinct connected
  obtain ⟨diagram, drawn, same, _⟩ :=
    of_graph_ok tables requested graph connected boxes placed whole
  refine ⟨diagram, drawn, ?_⟩
  rw [layers, place, Placement.layered_entries graph ranks found,
    Table.entries_distinct graph.nodes Node.id _ distinct] at placed
  exact same.trans (Except.ok.inj placed).symm

theorem layer_middle (graph : Graph) (distinct : graph.ids.Nodup) (ranks : Table String Nat)
    (diagram : Diagram ℚ)
    (boxes : diagram.boxes = graph.nodes.map fun node =>
      (node.id, Placement.layeredBox ranks (Row.ofGraph graph) node))
    (id : String) (known : id ∈ graph.ids) :
    diagram.middle? id = some
      ⟨Placement.column (Rank.rankOf ranks id) + 60, Row.height (Row.rowOf graph id)⟩ := by
  obtain ⟨node, member, rfl⟩ := List.mem_map.mp known
  have entry := Table.get_entry graph.nodes Node.id
    (fun node => (Placement.layeredBox ranks (Row.ofGraph graph) node : Box ℚ)) distinct node member
  rw [Table.entries_distinct graph.nodes Node.id _ distinct, ← boxes] at entry
  rw [middle?, entry, Option.map_some, Placement.layered_center]

/-- The sweep ends and takes no node twice. Without cycles the rank of a node is the length of the longest
way to it, and every edge leads to a later column. -/
theorem columns_are_longest_ways (tables : Table String (RoleTable ℚ)) (requested : Strategy)
    (graph : Graph) (distinct : graph.ids.Nodup)
    (connected : ∀ edge ∈ graph.edges, edge.source ∈ graph.ids ∧ edge.target ∈ graph.ids) :
    ∃ order last ranks,
      Rank.Sweep.Takes graph (Rank.Sweep.start graph) order last ∧ order.Nodup ∧
      (∀ id, id ∈ order ↔ id ∈ graph.ids ∧ Rank.Settled graph id) ∧
      Rank.ofGraph graph = .ok ranks ∧ ranks = last.settle graph ∧
      (Rank.Acyclic graph →
        ∀ id ∈ graph.ids, IsGreatest (Rank.lengthsTo graph id) (Rank.rankOf ranks id)) ∧
      (Rank.Acyclic graph → strategyFor tables requested graph = .layered →
        ∃ diagram : Diagram ℚ, ofGraph tables requested graph = .ok diagram ∧
          (∀ id ∈ graph.ids, ∃ middle, diagram.middle? id = some middle ∧
            middle.x = Placement.column (Rank.rankOf ranks id) + 60) ∧
          ∀ edge ∈ graph.edges, ∃ source target, diagram.middle? edge.source = some source ∧
            diagram.middle? edge.target = some target ∧ source.x < target.x) := by
  obtain ⟨order, last, takes, boundary, found⟩ :=
    Rank.ranks_swept graph distinct fun edge member => (connected edge member).2
  have ended := Rank.takes_ended graph _ last order takes
  have settled := Rank.settled_iff_done graph connected order.reverse last boundary ended
  refine ⟨order, last, last.settle graph, takes, List.nodup_reverse.mp boundary.distinct, ?_, found,
    rfl, ?_, ?_⟩
  · intro id
    rw [← List.mem_reverse]
    constructor
    · intro taken
      have known := boundary.known id taken
      exact ⟨known, (settled id known).mpr taken⟩
    · exact fun ⟨known, free⟩ => (settled id known).mp free
  · intro acyclic id known
    obtain ⟨ranks, same, columns⟩ := Rank.ranks_columns graph distinct connected
    cases found.symm.trans same
    exact Rank.column_greatest graph acyclic id _ (columns id known)
  · intro acyclic layers
    obtain ⟨diagram, drawn, boxes⟩ :=
      layers_drawn tables requested graph layers distinct connected _ found
    have middle := layer_middle graph distinct _ diagram boxes
    refine ⟨diagram, drawn, fun id known => ⟨_, middle id known, rfl⟩, ?_⟩
    intro edge member
    obtain ⟨source, target⟩ := connected edge member
    obtain ⟨ranks, same, grows⟩ := Rank.ranks_grow graph distinct connected acyclic
    cases found.symm.trans same
    have before := Placement.column_before _ _ (grows edge member)
    refine ⟨_, _, middle _ source, middle _ target, ?_⟩
    simp only
    linarith [Placement.task_width]

/-- Two ways of different lengths meet, and the longer one has an edge twice. -/
def bypassGraph : Graph where
  nodes := [
    { id := "start", elementId := "Start", kind := .startEvent },
    { id := "end", elementId := "End", kind := .endEvent },
    { id := "check", elementId := "Check", kind := .exclusiveGateway },
    { id := "fix", elementId := "Fix", kind := .task },
    { id := "send", elementId := "Send", kind := .task }]
  edges := [
    { source := "start", target := "check" }, { source := "check", target := "send" },
    { source := "check", target := "fix" }, { source := "fix", target := "send" },
    { source := "fix", target := "send" }, { source := "send", target := "end" }]

theorem bypass_columns :
    bypassGraph.ids.Nodup ∧
      (∀ edge ∈ bypassGraph.edges,
        edge.source ∈ bypassGraph.ids ∧ edge.target ∈ bypassGraph.ids) ∧
      Rank.Acyclic bypassGraph ∧
      strategyFor ([] : Table String (RoleTable ℚ)) .auto bypassGraph = .layered ∧
      (∃ order last, Rank.Sweep.Takes bypassGraph (Rank.Sweep.start bypassGraph) order last ∧
        order.Nodup ∧ "end" ∈ order) ∧
      IsGreatest (Rank.lengthsTo bypassGraph "end") 4 ∧
      ∃ diagram : Diagram ℚ, ofGraph [] .auto bypassGraph = .ok diagram ∧
        ∃ middle, diagram.middle? "end" = some middle ∧ middle.x = 1010 := by
  have distinct : bypassGraph.ids.Nodup := by decide
  have connected : ∀ edge ∈ bypassGraph.edges,
      edge.source ∈ bypassGraph.ids ∧ edge.target ∈ bypassGraph.ids := by decide
  have acyclic : Rank.Acyclic bypassGraph := by
    intro id circle
    let place (id : String) : Nat := ["start", "check", "fix", "send", "end"].idxOf id
    have grows : ∀ edge ∈ bypassGraph.edges, place edge.source < place edge.target := by decide
    exact Nat.lt_irrefl _ (Graph.rank_behind bypassGraph place grows id id circle)
  have layers : strategyFor ([] : Table String (RoleTable ℚ)) .auto bypassGraph = .layered := rfl
  obtain ⟨order, last, ranks, takes, once, taken, found, _, longest, drawn⟩ :=
    columns_are_longest_ways [] .auto bypassGraph distinct connected
  have computed : (Rank.ofGraph bypassGraph).map (Rank.rankOf · "end") = .ok 4 := by decide +kernel
  rw [found] at computed
  have four : Rank.rankOf ranks "end" = 4 := Except.ok.inj computed
  obtain ⟨diagram, made, columns, _⟩ := drawn acyclic layers
  obtain ⟨middle, here, column⟩ := columns "end" (by decide)
  refine ⟨distinct, connected, acyclic, layers, ⟨order, last, takes, once,
    (taken "end").mpr ⟨by decide, Rank.acyclic_settled bypassGraph acyclic "end"⟩⟩,
    four ▸ longest acyclic "end" (by decide), diagram, made, middle, here, ?_⟩
  rw [column, four]
  norm_num [Placement.column, Placement.left, Placement.columnWidth]

end Diagram

end ProcessDiagram
