import Mathlib.Data.List.Dedup
import ProcessDiagram.Proofs.Layout.FirstBranch
import ProcessDiagram.Proofs.Layout.LongestWay

set_option autoImplicit false

namespace ProcessDiagram

open Reach (Linked)

namespace Row

variable (graph : Graph) (tree : graph.Tree)

include tree

theorem row_ends (id : String) (known : id ∈ graph.ids) :
    ∃ final ∈ graph.ends, rowOf graph final.id = rowOf graph id := by
  let row := graph.ids.filter fun other => rowOf graph other = rowOf graph id
  have here : id ∈ row := List.mem_filter.mpr ⟨known, decide_eq_true rfl⟩
  obtain ⟨last, member, none_behind⟩ := Reach.some_sink (Linked graph.links) row
    (fun other _ => tree.no_circle other) (List.ne_nil_of_mem here)
  obtain ⟨inside, same⟩ := List.mem_filter.mp member
  obtain ⟨node, listed, rfl⟩ := List.mem_map.mp inside
  have no_edge : graph.outgoing node.id = [] := by
    cases edges : graph.outgoing node.id with
    | nil => rfl
    | cons edge others =>
        have leaves : edge ∈ graph.outgoing node.id := edges ▸ List.mem_cons_self
        have link := Walk.outgoing_link graph node.id edge leaves
        have stays := first_stays graph tree node.id inside edge (by rw [edges]; rfl)
        have beside : edge.target ∈ row := List.mem_filter.mpr
          ⟨tree.target_known _ edge leaves, decide_eq_true (stays.trans (of_decide_eq_true same))⟩
        exact absurd link (none_behind edge.target beside)
  have kind := tree.sound.left node listed no_edge
  exact ⟨node, List.mem_filter.mpr ⟨listed, decide_eq_true kind⟩, of_decide_eq_true same⟩

theorem ends_apart (one two : Node) (member : one ∈ graph.ends) (other : two ∈ graph.ends)
    (same : rowOf graph one.id = rowOf graph two.id) : one = two := by
  by_contra apart
  have differ : one.id ≠ two.id := fun ids => apart
    (List.inj_on_of_nodup_map tree.sound.distinct (List.mem_filter.mp member).1
      (List.mem_filter.mp other).1 ids)
  obtain behind | behind := same_row_leads graph tree.sound.single_start one.id two.id
    (graph.end_known one member) (graph.end_known two other) differ same
  · exact tree.nothing_behind one member _ behind
  · exact tree.nothing_behind two other _ behind

theorem targets_apart (id : String) :
    ((graph.outgoing id).map fun edge => rowOf graph edge.target).Nodup := by
  have distinct : ((graph.outgoing id).map Edge.target).Nodup :=
    tree.entries.sublist (List.filter_sublist.map Edge.target)
  have pairs := List.pairwise_map.mp distinct
  refine List.pairwise_map.mpr (pairs.imp_of_mem ?_)
  intro one two member other apart same
  have link := Walk.outgoing_link graph id one member
  have beside := Walk.outgoing_link graph id two other
  obtain behind | behind := same_row_leads graph tree.sound.single_start one.target two.target
    (tree.target_known id one member) (tree.target_known id two other) apart same
  · exact tree.siblings_apart id _ _ link beside behind
  · exact tree.siblings_apart id _ _ beside link behind

end Row

namespace Diagram

def height? (diagram : Diagram ℚ) (id : String) : Option ℚ :=
  (diagram.middle? id).map Point.y

def heights (diagram : Diagram ℚ) : List ℚ :=
  (diagram.boxes.map fun entry => entry.2.center.y).dedup

structure Branched (graph : Graph) (diagram : Diagram ℚ) : Prop where
  column : ∀ gateway ∈ graph.gateways, ∃ x, ∀ edge ∈ graph.outgoing gateway.id,
    ∃ y, diagram.middle? edge.target = some ⟨x, y⟩
  apart : ∀ gateway ∈ graph.gateways,
    ((graph.outgoing gateway.id).map fun edge => diagram.height? edge.target).Nodup
  counted : diagram.heights.length = graph.ends.length
  ends : ∀ height ∈ diagram.heights,
    ∃! final, final ∈ graph.ends ∧ diagram.height? final.id = some height

theorem row_height_injective (first second : Nat) (same : Row.height first = Row.height second) :
    first = second := by
  have product : (first * 150 : ℚ) = second * 150 := add_left_cancel same
  exact_mod_cast mul_right_cancel₀ (by norm_num) product

section Layers

variable (graph : Graph) (tree : graph.Tree) (ranks : Table String Nat) (diagram : Diagram ℚ)
  (boxes : diagram.boxes = graph.nodes.map fun node =>
    (node.id, Placement.layeredBox ranks (Row.ofGraph graph) node))

include boxes

theorem layer_height (distinct : graph.ids.Nodup) (id : String) (known : id ∈ graph.ids) :
    diagram.height? id = some (Row.height (Row.rowOf graph id)) := by
  rw [height?, layer_middle graph distinct ranks diagram boxes id known]
  rfl

theorem mem_heights (height : ℚ) :
    height ∈ diagram.heights ↔ ∃ id ∈ graph.ids, Row.height (Row.rowOf graph id) = height := by
  have listed : (diagram.boxes.map fun entry => entry.2.center.y) =
      graph.ids.map fun id => Row.height (Row.rowOf graph id) := by
    rw [boxes, Graph.ids, List.map_map, List.map_map]
    exact List.map_congr_left fun node _ =>
      congrArg Point.y (Placement.layered_center ranks graph node)
  rw [heights, List.mem_dedup, listed, List.mem_map]

include tree

theorem heights_of_ends :
    diagram.heights.Perm (graph.ends.map fun final => Row.height (Row.rowOf graph final.id)) := by
  have single : (graph.ends.map fun final => Row.height (Row.rowOf graph final.id)).Nodup := by
    have listed : graph.ends.Nodup := (tree.sound.distinct.of_map Node.id).filter _
    refine listed.map_on ?_
    intro one member two other same
    exact Row.ends_apart graph tree one two member other (row_height_injective _ _ same)
  have once : diagram.heights.Nodup := List.nodup_dedup _
  refine (List.perm_ext_iff_of_nodup once single).mpr ?_
  intro height
  rw [mem_heights graph ranks diagram boxes height, List.mem_map]
  constructor
  · rintro ⟨id, known, rfl⟩
    obtain ⟨final, member, same⟩ := Row.row_ends graph tree id known
    exact ⟨final, member, congrArg Row.height same⟩
  · rintro ⟨final, member, rfl⟩
    exact ⟨final.id, graph.end_known final member, rfl⟩

theorem one_end (height : ℚ) (member : height ∈ diagram.heights) :
    ∃! final, final ∈ graph.ends ∧ diagram.height? final.id = some height := by
  have shown : ∀ final ∈ graph.ends,
      diagram.height? final.id = some (Row.height (Row.rowOf graph final.id)) := fun final ended =>
    layer_height graph ranks diagram boxes tree.sound.distinct _ (graph.end_known final ended)
  have rows := heights_of_ends graph tree ranks diagram boxes
  obtain ⟨final, ended, rfl⟩ := List.mem_map.mp (rows.mem_iff.mp member)
  refine ⟨final, ⟨ended, shown final ended⟩, ?_⟩
  rintro other ⟨also, same⟩
  rw [shown other also] at same
  exact Row.ends_apart graph tree other final also ended
    (row_height_injective _ _ (Option.some.inj same))

theorem target_heights (id : String) :
    ((graph.outgoing id).map fun edge => diagram.height? edge.target).Nodup := by
  have heights : ((graph.outgoing id).map fun edge => diagram.height? edge.target) =
      ((graph.outgoing id).map fun edge => Row.rowOf graph edge.target).map
        fun row => some (Row.height row) := by
    rw [List.map_map]
    exact List.map_congr_left fun edge leaves => layer_height graph ranks diagram boxes
      tree.sound.distinct _ (tree.target_known id edge leaves)
  rw [heights]
  exact (Row.targets_apart graph tree id).map fun one two same =>
    row_height_injective one two (Option.some.inj same)

variable (columns : ∀ id ∈ graph.ids, Rank.InColumn graph id (Rank.rankOf ranks id))

include columns

theorem target_column (id : String) (edge : Edge) (leaves : edge ∈ graph.outgoing id) :
    ∃ y, diagram.middle? edge.target =
      some ⟨Placement.column (Rank.rankOf ranks id + 1) + 60, y⟩ := by
  obtain ⟨listed, source⟩ := List.mem_filter.mp leaves
  have known : edge.source ∈ graph.ids := (tree.sound.connected edge listed).1
  have target := tree.target_known id edge leaves
  have only : ∀ other ∈ graph.edges, other.target = edge.target → other.source = edge.source :=
    fun other inside same => congrArg Edge.source (tree.one_entry other edge inside listed same)
  have next := Rank.column_next graph edge listed only
    (Rank.acyclic_settled graph tree.no_circle edge.target) _ _ (columns _ known)
    (columns _ target)
  rw [layer_middle graph tree.sound.distinct ranks diagram boxes _ target, next,
    of_decide_eq_true source]
  exact ⟨_, rfl⟩

theorem layers_branched : Branched graph diagram where
  column gateway _ := ⟨_, target_column graph tree ranks diagram boxes columns gateway.id⟩
  apart gateway _ := target_heights graph tree ranks diagram boxes gateway.id
  counted := by
    rw [(heights_of_ends graph tree ranks diagram boxes).length_eq, List.length_map]
  ends := one_end graph tree ranks diagram boxes

end Layers

theorem tree_branched (tables : Table String (RoleTable ℚ)) (requested : Strategy) (graph : Graph)
    (tree : graph.Tree) (layers : strategyFor tables requested graph = .layered) :
    ∃ diagram : Diagram ℚ, ofGraph tables requested graph = .ok diagram ∧
      Branched graph diagram := by
  obtain ⟨ranks, found, columns⟩ :=
    Rank.ranks_columns graph tree.sound.distinct tree.sound.connected
  obtain ⟨diagram, drawn, boxes⟩ := layers_drawn tables requested graph layers
    tree.sound.distinct tree.sound.connected ranks found
  exact ⟨diagram, drawn, layers_branched graph tree ranks diagram boxes columns⟩

/-- The outcomes of a branch stand side by side in one column, each in a row of its own that runs to one
end. -/
theorem outcomes_in_rows {Coordinate : Type} (archetypes : List (Archetype Coordinate))
    (tables : Table String (RoleTable ℚ)) (requested : Strategy) (description : Description)
    (token : String) (strange : Archetype.find? archetypes description = none) :
    ∃ graph, Graph.ofDescription archetypes true description token = .ok graph ∧
      (strategyFor tables requested graph = .layered →
        ∃ diagram : Diagram ℚ, ofGraph tables requested graph = .ok diagram ∧
          Branched graph diagram) := by
  have tree := Graph.generic_tree description true token
  exact ⟨_, Graph.generic_accepted archetypes true description token strange tree.sound,
    tree_branched tables requested _ tree⟩

theorem forked_rows :
    Archetype.find? ([] : List (Archetype Int)) Graph.forkedDescription = none ∧
      ∃ (graph : Graph) (diagram : Diagram ℚ),
        Graph.ofDescription ([] : List (Archetype Int)) true Graph.forkedDescription "0" =
          .ok graph ∧
        strategyFor ([] : Table String (RoleTable ℚ)) .layered graph = .layered ∧
        ofGraph [] .layered graph = .ok diagram ∧ Branched graph diagram ∧
        diagram.heights.length = 5 := by
  obtain ⟨graph, built, drawn⟩ := outcomes_in_rows ([] : List (Archetype Int)) [] .layered
    Graph.forkedDescription "0" rfl
  obtain ⟨diagram, made, branched⟩ := drawn rfl
  have counted : (Graph.ofDescription ([] : List (Archetype Int)) true Graph.forkedDescription
      "0").toOption.map (fun graph => graph.ends.length) = some 5 := by
    decide +kernel
  rw [built] at counted
  have five : graph.ends.length = 5 := Option.some.inj counted
  exact ⟨rfl, graph, diagram, built, rfl, made, branched, branched.counted.trans five⟩

end Diagram

end ProcessDiagram
