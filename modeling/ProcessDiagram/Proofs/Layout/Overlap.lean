import Mathlib.Algebra.Order.Field.Rat
import Mathlib.Tactic.Linarith
import Mathlib.Tactic.Ring
import ProcessDiagram.Proofs.Layout.Column
import ProcessDiagram.Proofs.Layout.Placement
import ProcessDiagram.Proofs.Layout.Row

set_option autoImplicit false

namespace ProcessDiagram

instance : Scalar ℚ where
  ofInt value := value
  decideLT first second := inferInstanceAs (Decidable (first < second))
  decideLE first second := inferInstanceAs (Decidable (first ≤ second))

theorem Scalar.of_nat (value : Nat) : (ofInt (value : Int) : ℚ) = value :=
  Int.cast_natCast value

namespace Box

theorem apart_iff (box other : Box ℚ) :
    box.overlaps other = false ↔
      other.right ≤ box.x ∨ box.right ≤ other.x ∨ other.bottom ≤ box.y ∨ box.bottom ≤ other.y := by
  rw [overlaps, Bool.and_eq_false_iff, Bool.and_eq_false_iff, Bool.and_eq_false_iff,
    decide_eq_false_iff_not, decide_eq_false_iff_not, decide_eq_false_iff_not,
    decide_eq_false_iff_not, or_assoc, or_assoc]
  exact or_congr not_lt (or_congr not_lt (or_congr not_lt not_lt))

theorem overlaps_comm (box other : Box ℚ) : box.overlaps other = other.overlaps box := by
  rw [Bool.eq_iff_iff]
  simp only [overlaps, Bool.and_eq_true, decide_eq_true_eq]
  tauto

end Box

theorem Diagram.overlapping_entries (table : Table String (Box ℚ)) (first second : String) :
    (first, second) ∈ overlapsIn table ↔ ∃ box other,
      [(first, box), (second, other)].Sublist table ∧ box.overlaps other = true := by
  induction table with
  | nil =>
      constructor
      · intro member
        cases member
      · rintro ⟨_, _, inside, _⟩
        cases inside
  | cons entry rest ih =>
      rw [overlapsIn, List.mem_append, ih, List.mem_map]
      constructor
      · rintro (⟨later, met, same⟩ | ⟨box, other, inside, meets⟩)
        · obtain ⟨listed, meets⟩ := List.mem_filter.mp met
          obtain ⟨rfl, rfl⟩ := Prod.mk.inj same
          exact ⟨entry.2, later.2, (List.singleton_sublist.mpr listed).cons_cons entry, meets⟩
        · exact ⟨box, other, inside.cons entry, meets⟩
      · rintro ⟨box, other, inside, meets⟩
        cases inside with
        | cons _ later => exact .inr ⟨box, other, later, meets⟩
        | cons_cons _ later =>
            have listed := List.singleton_sublist.mp later
            exact .inl ⟨(second, other), List.mem_filter.mpr ⟨listed, meets⟩, rfl⟩

theorem Diagram.no_overlaps (table : Table String (Box ℚ))
    (apart : table.Pairwise fun first second => first.2.overlaps second.2 = false) :
    overlapsIn table = [] := by
  induction apart with
  | nil => rfl
  | @cons entry rest others _ ih =>
      have none : rest.filter (fun other => entry.2.overlaps other.2) = [] := by
        rw [List.filter_eq_nil_iff]
        intro other member
        rw [others other member]
        exact Bool.false_ne_true
      rw [overlapsIn, none, ih]
      rfl

theorem NodeKind.size_fits (kind : NodeKind) (width : ℚ) (wide : 50 ≤ width) :
    (kind.size width).1 ≤ width ∧ (kind.size width).2 ≤ 80 := by
  have fixed : ∀ side : Int, side ≤ 50 → (side : ℚ) ≤ width ∧ (side : ℚ) ≤ 80 := by
    intro side small
    have bound : (side : ℚ) ≤ 50 := by exact_mod_cast small
    exact ⟨bound.trans wide, by linarith⟩
  have large : ((80 : Int) : ℚ) ≤ 80 := by norm_num
  by_cases event : kind.isEvent
  · rw [size, if_pos event]
    exact fixed 36 (by decide)
  · rw [size, if_neg event]
    by_cases gateway : kind.isGateway
    · rw [if_pos gateway]
      exact fixed 50 (by decide)
    · rw [if_neg gateway]
      exact ⟨le_refl width, large⟩

namespace Placement

def InColumn (index : Nat) (box : Box ℚ) : Prop :=
  (column index : ℚ) ≤ box.x ∧ box.right ≤ column index + taskWidth

def InRow (row : Nat) (box : Box ℚ) : Prop :=
  (180 + row * 150 : ℚ) ≤ box.y ∧ box.bottom ≤ 260 + row * 150

theorem column_before (first second : Nat) (before : first < second) :
    (column first + taskWidth : ℚ) ≤ column second := by
  have bound : column first + taskWidth ≤ column second := by
    simp only [column, taskWidth, columnWidth, left]
    omega
  exact_mod_cast bound

theorem columns_apart (first second : Nat) (apart : first ≠ second) (box other : Box ℚ)
    (inside : InColumn first box) (beside : InColumn second other) :
    box.overlaps other = false := by
  rw [Box.apart_iff]
  rcases Nat.lt_or_gt_of_ne apart with before | behind
  · have distance := column_before first second before
    exact .inr (.inl (inside.2.trans (distance.trans beside.1)))
  · have distance := column_before second first behind
    exact .inl (beside.2.trans (distance.trans inside.1))

theorem row_before (first second : Nat) (before : first < second) :
    (260 + first * 150 : ℚ) ≤ 180 + second * 150 := by
  have bound : 260 + first * 150 ≤ 180 + second * 150 := by omega
  exact_mod_cast bound

theorem rows_apart (first second : Nat) (apart : first ≠ second) (box other : Box ℚ)
    (inside : InRow first box) (below : InRow second other) : box.overlaps other = false := by
  rw [Box.apart_iff]
  rcases Nat.lt_or_gt_of_ne apart with before | behind
  · have distance := row_before first second before
    exact .inr (.inr (.inr (inside.2.trans (distance.trans below.1))))
  · have distance := row_before second first behind
    exact .inr (.inr (.inl (below.2.trans (distance.trans inside.1))))

theorem task_width : (taskWidth : ℚ) = 120 := by
  rw [taskWidth]
  norm_num

theorem corner_column (kind : NodeKind) (index : Nat) (y : ℚ) :
    InColumn index (cornerAt kind (Scalar.ofInt (column index)) y) := by
  have fits := (kind.size_fits taskWidth (by rw [task_width]; norm_num)).1
  rw [cornerAt, Scalar.of_nat, Scalar.of_nat]
  constructor
  · exact le_refl _
  · rw [Box.right]
    linarith

theorem linear_column (entry : Node × Nat) : InColumn entry.2 (linearBox entry) :=
  corner_column entry.1.kind entry.2 _

theorem centered_column (index : Nat) (center y width height : ℚ)
    (low : (column index : ℚ) + width / 2 ≤ center)
    (high : center + width / 2 ≤ column index + taskWidth) :
    InColumn index (Box.centeredAt center y width height) := by
  have x : (Box.centeredAt center y width height).x = center - width / 2 := rfl
  have right : (Box.centeredAt center y width height).right = center - width / 2 + width := rfl
  constructor
  · rw [x]
    linarith
  · rw [right]
    linarith

theorem centered_row (row : Nat) (x center width height : ℚ) (middle : center = 220 + row * 150)
    (fits : height ≤ 80) : InRow row (Box.centeredAt x center width height) := by
  have y : (Box.centeredAt x center width height).y = center - height / 2 := rfl
  have bottom : (Box.centeredAt x center width height).bottom = center - height / 2 + height := rfl
  constructor
  · rw [y]
    linarith
  · rw [bottom]
    linarith

theorem half_column (index width middle : Nat) (half : width / 2 = middle) :
    (Scalar.ofInt (column index + width / 2) : ℚ) = column index + middle := by
  rw [← half]
  exact (Scalar.of_nat (column index + width / 2)).trans (Nat.cast_add _ _)

theorem lanes_column (entry : (Node × Nat) × Nat) : InColumn entry.2 (lanesBox entry) := by
  have task : (laneTaskWidth : ℚ) = 100 := by
    rw [laneTaskWidth]
    norm_num
  have fits := (entry.1.1.kind.size_fits laneTaskWidth (by rw [task]; norm_num)).1
  have center := half_column entry.2 laneTaskWidth 50 rfl
  rw [lanesBox, center, Scalar.of_nat laneTaskWidth]
  apply centered_column
  · linarith
  · linarith [task_width]

variable (ranks rows : Table String Nat) (node : Node)

theorem layered_size :
    (node.kind.size (Scalar.ofInt taskWidth : ℚ)).1 ≤ 120 ∧
      (node.kind.size (Scalar.ofInt taskWidth : ℚ)).2 ≤ 80 := by
  rw [Scalar.of_nat, task_width]
  exact node.kind.size_fits 120 (by norm_num)

theorem layered_column :
    InColumn (Rank.rankOf ranks node.id) (layeredBox ranks rows node) := by
  have fits := (layered_size node).1
  have center := half_column (Rank.rankOf ranks node.id) taskWidth 60 rfl
  rw [layeredBox, ← Rank.rankOf, center]
  apply centered_column
  · linarith
  · linarith [task_width]

theorem layered_row :
    InRow ((Table.get? node.id rows).getD 0) (layeredBox ranks rows node) := by
  apply centered_row
  · exact (Scalar.of_nat _).trans (by push_cast; rfl)
  · exact (layered_size node).2

theorem numbered_apart {Source : Type} (sources : List Source) (id : Source × Nat → String)
    (box : Source × Nat → Box ℚ) (distinct : (sources.zipIdx.map id).Nodup)
    (columns : ∀ entry, InColumn entry.2 (box entry)) :
    Diagram.overlapsIn (Table.ofList (sources.zipIdx.map fun entry => (id entry, box entry))) =
      [] := by
  have indexes : sources.zipIdx.Pairwise fun first second => first.2 ≠ second.2 := by
    have single : (sources.zipIdx.map Prod.snd).Nodup := by
      rw [List.zipIdx_map_snd]
      exact List.nodup_range' 1
    exact List.pairwise_map.mp single
  rw [Table.entries_distinct sources.zipIdx id box distinct]
  apply Diagram.no_overlaps
  rw [List.pairwise_map]
  refine indexes.imp ?_
  intro first second apart
  have one := columns first
  have two := columns second
  exact columns_apart first.2 second.2 apart (box first) (box second) one two

theorem linear_apart (nodes : List Node) (distinct : (nodes.map Node.id).Nodup) :
    Diagram.overlapsIn (linear nodes : Boxes ℚ) = [] := by
  have ids : (nodes.zipIdx.map fun entry => entry.1.id).Nodup := by
    rw [numbered_ids]
    exact distinct
  rw [linear_entries]
  exact numbered_apart nodes (fun entry => entry.1.id) linearBox ids linear_column

theorem lanes_apart (graph : Graph) (distinct : graph.ids.Nodup) :
    Diagram.overlapsIn (lanes graph : Boxes ℚ) = [] := by
  have ids := lane_ids graph ▸ distinct
  rw [lanes_entries]
  exact numbered_apart _ (fun entry => entry.1.1.id) lanesBox ids lanes_column

theorem layered_apart (graph : Graph) (sound : graph.Sound) (ranks : Table String Nat)
    (grows : ∀ edge ∈ graph.edges, Rank.rankOf ranks edge.source < Rank.rankOf ranks edge.target) :
    Diagram.overlapsIn (Table.ofList (graph.nodes.map fun node =>
      (node.id, (layeredBox ranks (Row.ofGraph graph) node : Box ℚ)))) = [] := by
  have pairs : graph.nodes.Pairwise fun first second => first.id ≠ second.id :=
    List.pairwise_map.mp sound.distinct
  rw [Table.entries_distinct graph.nodes Node.id _ sound.distinct]
  apply Diagram.no_overlaps
  rw [List.pairwise_map]
  refine pairs.imp_of_mem ?_
  intro first second member other apart
  by_cases same : (Table.get? first.id (Row.ofGraph graph)).getD 0 =
      (Table.get? second.id (Row.ofGraph graph)).getD 0
  · -- One of two nodes in a row lies behind the other, so their ranks differ.
    have ranksApart : Rank.rankOf ranks first.id ≠ Rank.rankOf ranks second.id := by
      rcases Row.same_row_leads graph sound.single_start first.id second.id (List.mem_map_of_mem member)
        (List.mem_map_of_mem other) apart same with behind | behind
      · exact Nat.ne_of_lt (Graph.rank_behind graph (Rank.rankOf ranks) grows _ _ behind)
      · exact Nat.ne_of_gt (Graph.rank_behind graph (Rank.rankOf ranks) grows _ _ behind)
    exact columns_apart _ _ ranksApart _ _ (layered_column ranks _ first)
      (layered_column ranks _ second)
  · exact rows_apart _ _ same _ _ (layered_row ranks _ first) (layered_row ranks _ second)

end Placement

namespace Diagram

theorem place_apart (tables : Table String (RoleTable ℚ)) (strategy : Strategy) (graph : Graph)
    (sound : graph.Sound) (acyclic : Rank.Acyclic graph)
    (columns : strategy ∈ [Strategy.linear, .lanes, .layered]) :
    ∃ boxes, place tables strategy graph = .ok boxes ∧
      (∀ id ∈ graph.ids, id ∈ Table.keys boxes) ∧ overlapsIn boxes = [] := by
  obtain ⟨boxes, placed, whole⟩ := place_ok tables strategy graph sound.distinct sound.connected
  refine ⟨boxes, placed, whole, ?_⟩
  simp only [List.mem_cons, List.not_mem_nil, or_false] at columns
  rcases columns with rfl | rfl | rfl
  · rw [← Except.ok.inj placed]
    exact Placement.linear_apart graph.nodes sound.distinct
  · rw [← Except.ok.inj placed]
    exact Placement.lanes_apart graph sound.distinct
  · obtain ⟨ranks, found, grows⟩ :=
      Rank.ranks_grow graph sound.distinct sound.connected acyclic
    rw [place, Placement.layered_entries graph ranks found] at placed
    rw [← Except.ok.inj placed]
    exact Placement.layered_apart graph sound ranks grows

/-- In exact arithmetic no two boxes of an accepted graph without cycles overlap, in any of the layouts
that go by columns. -/
theorem boxes_never_overlap (tables : Table String (RoleTable ℚ)) (requested : Strategy)
    (graph : Graph) (accepted : graph.defects = []) (acyclic : Rank.Acyclic graph)
    (columns : strategyFor tables requested graph ∈ [Strategy.linear, .lanes, .layered]) :
    ∃ diagram : Diagram ℚ, ofGraph tables requested graph = .ok diagram ∧
      (∀ node ∈ graph.nodes, ∃ box, Table.get? node.id diagram.boxes = some box) ∧
      diagram.overlappingPairs = [] := by
  have sound := (Graph.sound_iff graph).mpr accepted
  obtain ⟨boxes, placed, whole, apart⟩ := place_apart tables _ graph sound acyclic columns
  obtain ⟨diagram, found, same, _⟩ :=
    of_graph_ok tables requested graph sound.connected boxes placed whole
  refine ⟨diagram, found, ?_, ?_⟩
  · intro node member
    rw [same]
    exact Table.get_exists _ _ (whole _ (List.mem_map_of_mem member))
  · rw [overlappingPairs, same]
    exact apart

/-- Both branches and a second edge of one of them meet again in one node. -/
def mergedGraph : Graph where
  nodes := [
    { id := "a", elementId := "A", kind := .startEvent },
    { id := "b", elementId := "B", kind := .exclusiveGateway },
    { id := "c", elementId := "C", kind := .task },
    { id := "d", elementId := "D", kind := .parallelGateway },
    { id := "e", elementId := "E", kind := .endEvent }]
  edges := [
    { source := "a", target := "b" }, { source := "b", target := "d", condition := some "yes" },
    { source := "b", target := "c", condition := some "no" }, { source := "c", target := "d" },
    { source := "c", target := "d" }, { source := "d", target := "e" }]

theorem merged_boxes_never_overlap :
    mergedGraph.defects = [] ∧ Rank.Acyclic mergedGraph ∧
      strategyFor ([] : Table String (RoleTable ℚ)) .auto mergedGraph = .layered ∧
      ∃ diagram : Diagram ℚ, ofGraph [] .auto mergedGraph = .ok diagram ∧
        (∀ node ∈ mergedGraph.nodes, ∃ box, Table.get? node.id diagram.boxes = some box) ∧
        diagram.overlappingPairs = [] := by
  have accepted : mergedGraph.defects = [] := by decide +kernel
  have acyclic : Rank.Acyclic mergedGraph := by
    intro id circle
    let place (id : String) : Nat := mergedGraph.ids.idxOf id
    have grows : ∀ edge ∈ mergedGraph.edges, place edge.source < place edge.target := by decide
    exact Nat.lt_irrefl _ (Graph.rank_behind mergedGraph place grows id id circle)
  have layers : strategyFor ([] : Table String (RoleTable ℚ)) .auto mergedGraph = .layered := rfl
  refine ⟨accepted, acyclic, layers, ?_⟩
  exact boxes_never_overlap [] .auto mergedGraph accepted acyclic (by rw [layers]; decide)

end Diagram

end ProcessDiagram
