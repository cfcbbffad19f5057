import ProcessDiagram.Proofs.Layout.Collision

set_option autoImplicit false

namespace ProcessDiagram

theorem Scalar.magnitude_abs (value : ℚ) : magnitude value = |value| := by
  have zero : (ofInt 0 : ℚ) = 0 := Int.cast_zero
  rw [magnitude, zero]
  by_cases negative : value < 0
  · rw [if_pos negative, abs_of_neg negative, zero_sub]
  · rw [if_neg negative, abs_of_nonneg (not_lt.mp negative)]

structure Box.Roomy (box : Box ℚ) : Prop where
  wide : 0 < box.width
  high : 36 ≤ box.height

theorem NodeKind.size_roomy (kind : NodeKind) (width : ℚ) (positive : 0 < width) :
    0 < (kind.size width).1 ∧ 36 ≤ (kind.size width).2 := by
  refine ⟨(kind.size_positive width positive).1, ?_⟩
  have fixed : ∀ side : Int, 36 ≤ side → (36 : ℚ) ≤ side := by
    intro side enough
    exact_mod_cast enough
  by_cases event : kind.isEvent
  · rw [size, if_pos event]
    exact fixed 36 (by decide)
  · rw [size, if_neg event]
    by_cases gateway : kind.isGateway
    · rw [if_pos gateway]
      exact fixed 50 (by decide)
    · rw [if_neg gateway]
      exact fixed 80 (by decide)

namespace Placement

theorem corner_roomy (kind : NodeKind) (x y : ℚ) : (cornerAt kind x y).Roomy := by
  have room := kind.size_roomy (Scalar.ofInt taskWidth) (by
    rw [Scalar.of_nat, task_width]
    norm_num)
  exact ⟨room.1, room.2⟩

theorem centered_roomy (kind : NodeKind) (width centerX centerY : ℚ) (positive : 0 < width) :
    (Box.centeredAt centerX centerY (kind.size width).1 (kind.size width).2).Roomy := by
  have room := kind.size_roomy width positive
  exact ⟨room.1, room.2⟩

theorem linear_roomy (nodes : List Node) :
    ∀ entry ∈ (linear nodes : Boxes ℚ), entry.2.Roomy := by
  apply Table.values_of_list
  intro entry member
  obtain ⟨⟨node, index⟩, _, rfl⟩ := List.mem_map.mp member
  exact corner_roomy _ _ _

theorem lanes_roomy (graph : Graph) : ∀ entry ∈ (lanes graph : Boxes ℚ), entry.2.Roomy := by
  apply Table.values_of_list
  intro entry member
  obtain ⟨⟨⟨node, lane⟩, index⟩, _, rfl⟩ := List.mem_map.mp member
  apply centered_roomy
  rw [Scalar.of_nat, laneTaskWidth]
  norm_num

theorem layered_roomy (graph : Graph) (boxes : Boxes ℚ) (made : layered graph = .ok boxes) :
    ∀ entry ∈ boxes, entry.2.Roomy := by
  obtain ⟨ranks, rfl⟩ := layered_made graph boxes made
  apply Table.values_of_list
  intro entry member
  obtain ⟨node, _, rfl⟩ := List.mem_map.mp member
  apply centered_roomy
  rw [Scalar.of_nat, task_width]
  norm_num

theorem by_role_roomy (table : RoleTable ℚ) (nodes : List Node) :
    ∀ entry ∈ byRole table nodes, entry.2.Roomy := by
  rw [byRole, park, ← List.foldl_map (f := fun entry : Node × Nat => (entry.1.id, cornerAt
    entry.1.kind (Scalar.ofInt (column entry.2)) _))
    (g := fun boxes pair => Table.put pair.1 pair.2 boxes)]
  apply Table.values_put_all
  · intro pair member
    obtain ⟨⟨node, index⟩, _, rfl⟩ := List.mem_map.mp member
    exact corner_roomy _ _ _
  · apply Table.values_of_list
    intro pair member
    obtain ⟨node, _, placed⟩ := List.mem_filterMap.mp member
    obtain ⟨place, _, rfl⟩ := Option.map_eq_some_iff.mp placed
    exact corner_roomy _ _ _

end Placement

theorem Diagram.place_roomy (tables : Table String (RoleTable ℚ)) (strategy : Strategy)
    (graph : Graph) (boxes : Boxes ℚ) (placed : place tables strategy graph = .ok boxes) :
    ∀ entry ∈ boxes, entry.2.Roomy := by
  cases strategy with
  | auto =>
      cases placed
      exact Placement.linear_roomy graph.nodes
  | linear =>
      cases placed
      exact Placement.linear_roomy graph.nodes
  | lanes =>
      cases placed
      exact Placement.lanes_roomy graph
  | archetype =>
      cases placed
      exact Placement.by_role_roomy _ graph.nodes
  | layered => exact Placement.layered_roomy graph boxes ((Each.renamed_ok _ _ _).mp placed)

namespace Box

theorem tolerance_half : (tolerance : ℚ) = 1 / 2 := by
  have one : (Scalar.ofInt 1 : ℚ) = 1 := Int.cast_one
  have two : (Scalar.ofInt 2 : ℚ) = 2 := by
    change ((2 : Int) : ℚ) = 2
    norm_num
  rw [tolerance, Scalar.half, one, two]

theorem half_rational (value : ℚ) : Scalar.half value = value / 2 := rfl

theorem side_near (box : Box ℚ) (point : Point ℚ) (roomy : box.Roomy)
    (side : point.x = box.x ∨ point.x = box.x + box.width) (low : box.y ≤ point.y)
    (high : point.y ≤ box.y + box.height) : box.nearOutline tolerance point = true := by
  have wide := roomy.wide
  simp only [nearOutline, tolerance_half, Scalar.magnitude_abs, Bool.and_eq_true, Bool.or_eq_true,
    decide_eq_true_eq]
  cases side with
  | inl left =>
      have beside : |point.x - box.x| ≤ 1 / 2 := by
        rw [left, sub_self, abs_zero]
        norm_num
      refine ⟨⟨⟨⟨?_, ?_⟩, ?_⟩, ?_⟩, .inl (.inl beside)⟩ <;> linarith
  | inr right =>
      have beside : |point.x - box.x - box.width| ≤ 1 / 2 := by
        rw [right, add_sub_cancel_left, sub_self, abs_zero]
        norm_num
      refine ⟨⟨⟨⟨?_, ?_⟩, ?_⟩, ?_⟩, .inl (.inr beside)⟩ <;> linarith

theorem right_anchor_near (box : Box ℚ) (roomy : box.Roomy) :
    box.nearOutline tolerance box.rightAnchor = true := by
  have high := roomy.high
  apply side_near box _ roomy (.inr rfl)
  · simp only [rightAnchor, half_rational]
    linarith
  · simp only [rightAnchor, half_rational]
    linarith

theorem left_side_near (box : Box ℚ) (level : ℚ) (roomy : box.Roomy)
    (close : |box.leftAnchor.y - level| ≤ 10) :
    box.nearOutline tolerance ⟨box.leftAnchor.x, level⟩ = true := by
  have high := roomy.high
  obtain ⟨above, below⟩ := abs_le.mp close
  simp only [leftAnchor, half_rational] at above below ⊢
  apply side_near box _ roomy (.inl rfl)
  · change box.y ≤ level
    linarith
  · change level ≤ box.y + box.height
    linarith

theorem left_anchor_near (box : Box ℚ) (roomy : box.Roomy) :
    box.nearOutline tolerance box.leftAnchor = true := by
  apply left_side_near box box.leftAnchor.y roomy
  rw [sub_self, abs_zero]
  norm_num

end Box

namespace Route

-- A route from one box to another: straight, or level, upright and level again.
inductive Attached (source target : Box ℚ) : List (Point ℚ) → Prop where
  | straight (first last : Point ℚ)
      (leaves : source.nearOutline Box.tolerance first = true)
      (enters : target.nearOutline Box.tolerance last = true) :
      Attached source target [first, last]
  | bent (first turn rise last : Point ℚ)
      (leaves : source.nearOutline Box.tolerance first = true)
      (enters : target.nearOutline Box.tolerance last = true)
      (level : turn.y = first.y) (upright : rise.x = turn.x) (again : last.y = rise.y)
      (after : min source.rightAnchor.x target.leftAnchor.x < turn.x)
      (before : turn.x < max source.rightAnchor.x target.leftAnchor.x) :
      Attached source target [first, turn, rise, last]

theorem bend_between (start finish : ℚ) (apart : start ≠ finish) :
    min start finish < start + (finish - start) * bendRatio ∧
      start + (finish - start) * bendRatio < max start finish := by
  have ratio : (bendRatio : ℚ) = 3 / 5 := by
    change ((3 : Int) : ℚ) / ((5 : Int) : ℚ) = 3 / 5
    norm_num
  rw [ratio]
  cases lt_or_gt_of_ne apart with
  | inl forward =>
      rw [min_eq_left forward.le, max_eq_right forward.le]
      constructor <;> linarith
  | inr backward =>
      rw [min_eq_right backward.le, max_eq_left backward.le]
      constructor <;> linarith

theorem between_attached (source target : Box ℚ) (roomy : source.Roomy) (other : target.Roomy) :
    Attached source target (between source target) := by
  have leaves := source.right_anchor_near roomy
  have enters := target.left_anchor_near other
  have threshold : ∀ bound : Int, (Scalar.ofInt bound : ℚ) = bound := fun _ => rfl
  simp only [between, Scalar.magnitude_abs, threshold, Bool.and_eq_true, decide_eq_true_eq]
  by_cases level : |target.leftAnchor.y - source.rightAnchor.y| ≤ ((10 : Int) : ℚ) ∧
      ((50 : Int) : ℚ) < |target.leftAnchor.x - source.rightAnchor.x|
  · rw [if_pos level]
    -- The end is not the anchor of the target, but the point of its side at the start's height.
    apply Attached.straight _ _ leaves
    apply target.left_side_near _ other
    exact_mod_cast level.1
  · rw [if_neg level]
    by_cases far : ((80 : Int) : ℚ) < |target.leftAnchor.y - source.rightAnchor.y| ∧
        ((100 : Int) : ℚ) < |target.leftAnchor.x - source.rightAnchor.x|
    · rw [if_pos far]
      have apart : source.rightAnchor.x ≠ target.leftAnchor.x := by
        intro same
        have none := far.2
        rw [same, sub_self, abs_zero] at none
        norm_num at none
      obtain ⟨after, before⟩ := bend_between _ _ apart
      exact .bent _ _ _ _ leaves enters rfl rfl rfl after before
    · rw [if_neg far]
      exact .straight _ _ leaves enters

end Route

namespace Diagram

/-- Whatever the strategy and its table of places, each route begins at the box that its edge leaves and
ends at the one it leads to. -/
theorem routes_attached (tables : Table String (RoleTable ℚ)) (requested : Strategy)
    (graph : Graph) (diagram : Diagram ℚ) (made : ofGraph tables requested graph = .ok diagram) :
    (∀ node ∈ graph.nodes, ∃ box, Table.get? node.id diagram.boxes = some box) ∧
      ∀ (index : Nat) (edge : Edge), graph.edges[index]? = some edge → ∃ source target points,
        Table.get? edge.source diagram.boxes = some source ∧
        Table.get? edge.target diagram.boxes = some target ∧
        Table.get? (index : Int) diagram.routes = some points ∧
        Route.Attached source target points := by
  obtain ⟨placed, routed⟩ := of_graph_made tables requested graph diagram made
  have whole := place_whole tables _ graph diagram.boxes placed
  have roomy := place_roomy tables _ graph diagram.boxes placed
  constructor
  · intro node member
    exact Table.get_exists _ _ (whole _ (List.mem_map_of_mem member))
  · intro index edge here
    obtain ⟨source, target, sourceFound, targetFound, points⟩ :=
      routes_by_place diagram.boxes graph.edges diagram.routes routed index edge here
    refine ⟨source, target, _, sourceFound, targetFound, points, ?_⟩
    apply Route.between_attached
    · exact roomy _ (Table.get_mem _ _ _ sourceFound)
    · exact roomy _ (Table.get_mem _ _ _ targetFound)

/-- A text is rewritten on the spot or sent back to its start, which the table places further right
and below; the end has no place. -/
def retryGraph : Graph where
  archetype := some "retry"
  nodes := [
    { id := "start", elementId := "Start", kind := .startEvent, role := some "start" },
    { id := "write", elementId := "Write", kind := .task, role := some "write" },
    { id := "end", elementId := "End", kind := .endEvent }]
  edges := [
    { source := "start", target := "write" }, { source := "write", target := "write" },
    { source := "write", target := "start" }, { source := "write", target := "end" }]

def retryTables : Table String (RoleTable ℚ) :=
  [("retry", [("start", (700, 600)), ("write", (-40, 50))])]

theorem retry_routes_attached :
    ∃ diagram : Diagram ℚ, ofGraph retryTables .archetype retryGraph = .ok diagram ∧
      (∃ source points, Table.get? "write" diagram.boxes = some source ∧
        Table.get? 1 diagram.routes = some points ∧ points.length = 2 ∧
        Route.Attached source source points) ∧
      ∃ source target points, Table.get? "write" diagram.boxes = some source ∧
        Table.get? "start" diagram.boxes = some target ∧
        Table.get? 2 diagram.routes = some points ∧ points.length = 4 ∧
        Route.Attached source target points := by
  have computed : (ofGraph retryTables .archetype retryGraph : Except _ (Diagram ℚ)).map
      (fun diagram => diagram.routes.map fun route => (route.1, route.2.length)) =
        .ok [(0, 4), (1, 2), (2, 4), (3, 2)] := by
    decide +kernel
  cases made : (ofGraph retryTables .archetype retryGraph : Except _ (Diagram ℚ)) with
  | error failure => simp [made, Except.map] at computed
  | ok diagram =>
      rw [made] at computed
      have attached := (routes_attached retryTables .archetype retryGraph diagram made).2
      have lengths : ∀ key points, Table.get? key diagram.routes = some points →
          (key, points.length) ∈ [((0 : Int), 4), (1, 2), (2, 4), (3, 2)] := by
        intro key points found
        rw [← Except.ok.inj computed]
        exact List.mem_map_of_mem (Table.get_mem _ _ _ found)
      obtain ⟨source, same, loop, found, sameFound, looped, whole⟩ := attached 1 _ rfl
      obtain ⟨left, entered, back, leftFound, enteredFound, backed, bent⟩ := attached 2 _ rfl
      refine ⟨diagram, rfl, ⟨source, loop, found, looped, ?_, ?_⟩, left, entered, back, leftFound,
        enteredFound, backed, ?_, bent⟩
      · simpa using lengths _ _ looped
      · cases Option.some.inj (found.symm.trans sameFound)
        exact whole
      · simpa using lengths _ _ backed

end Diagram

end ProcessDiagram
