import ProcessDiagram.Proofs.Layout.Overlap

set_option autoImplicit false

namespace ProcessDiagram

theorem Diagram.mem_overlaps (nodes : List Node) (boxOf : Node → Box ℚ) (first second : String) :
    (first, second) ∈ overlapsIn (nodes.map fun node => (node.id, boxOf node)) ↔
      ∃ one two, [one, two].Sublist nodes ∧ one.id = first ∧ two.id = second ∧
        (boxOf one).overlaps (boxOf two) = true := by
  rw [overlapping_entries]
  constructor
  · rintro ⟨box, other, inside, meets⟩
    obtain ⟨pair, part, entries⟩ := List.sublist_map_iff.mp inside
    match pair, entries with
    | [one, two], entries =>
        simp only [List.map_cons, List.map_nil, List.cons.injEq, Prod.mk.injEq, and_true] at entries
        obtain ⟨⟨rfl, rfl⟩, rfl, rfl⟩ := entries
        exact ⟨one, two, part, rfl, rfl, meets⟩
  · rintro ⟨one, two, inside, rfl, rfl, meets⟩
    exact ⟨boxOf one, boxOf two, inside.map fun node : Node => (node.id, boxOf node), meets⟩

theorem NodeKind.size_positive (kind : NodeKind) (width : ℚ) (positive : 0 < width) :
    0 < (kind.size width).1 ∧ 0 < (kind.size width).2 := by
  have fixed : ∀ side : Int, 0 < side → (0 : ℚ) < side := fun _ => Int.cast_pos.mpr
  by_cases event : kind.isEvent
  · rw [size, if_pos event]
    exact ⟨fixed 36 (by decide), fixed 36 (by decide)⟩
  · rw [size, if_neg event]
    by_cases gateway : kind.isGateway
    · rw [if_pos gateway]
      exact ⟨fixed 50 (by decide), fixed 50 (by decide)⟩
    · rw [if_neg gateway]
      exact ⟨positive, fixed 80 (by decide)⟩

theorem Box.centered_overlap (centerX centerY : ℚ) (size other : ℚ × ℚ)
    (positive : 0 < size.1 ∧ 0 < size.2) (otherPositive : 0 < other.1 ∧ 0 < other.2) :
    (centeredAt centerX centerY size.1 size.2).overlaps
      (centeredAt centerX centerY other.1 other.2) = true := by
  have crossed : ∀ center first second : ℚ, 0 < first → 0 < second →
      center - first / 2 < center - second / 2 + second := by
    intro center first second one two
    linarith
  simp only [overlaps, Bool.and_eq_true, decide_eq_true_eq]
  exact ⟨⟨⟨crossed centerX _ _ positive.1 otherPositive.1,
    crossed centerX _ _ otherPositive.1 positive.1⟩,
    crossed centerY _ _ positive.2 otherPositive.2⟩,
    crossed centerY _ _ otherPositive.2 positive.2⟩

namespace Placement

theorem layered_positive (node : Node) :
    0 < (node.kind.size (Scalar.ofInt taskWidth : ℚ)).1 ∧
      0 < (node.kind.size (Scalar.ofInt taskWidth : ℚ)).2 := by
  rw [Scalar.of_nat, task_width]
  exact node.kind.size_positive 120 (by norm_num)

theorem layered_overlap (graph : Graph) (ranks : Table String Nat) (one two : Node) :
    (layeredBox ranks (Row.ofGraph graph) one : Box ℚ).overlaps
        (layeredBox ranks (Row.ofGraph graph) two) = true ↔
      Rank.rankOf ranks one.id = Rank.rankOf ranks two.id ∧
        Row.rowOf graph one.id = Row.rowOf graph two.id := by
  constructor
  · intro meets
    rw [← Bool.not_eq_false] at meets
    constructor
    · by_contra apart
      exact meets (columns_apart _ _ apart _ _ (layered_column ranks _ one)
        (layered_column ranks _ two))
    · by_contra apart
      exact meets (rows_apart _ _ apart _ _ (layered_row ranks _ one) (layered_row ranks _ two))
  · rintro ⟨column, row⟩
    rw [Rank.rankOf, Rank.rankOf] at column
    rw [Row.rowOf, Row.rowOf] at row
    rw [layeredBox, layeredBox, column, row]
    exact Box.centered_overlap _ _ _ _ (layered_positive one) (layered_positive two)

theorem layered_pairs (graph : Graph) (ranks : Table String Nat) (first second : String) :
    (first, second) ∈ Diagram.overlapsIn (graph.nodes.map fun node =>
        (node.id, (layeredBox ranks (Row.ofGraph graph) node : Box ℚ))) ↔
      [first, second].Sublist graph.ids ∧ Rank.rankOf ranks first = Rank.rankOf ranks second ∧
        Row.rowOf graph first = Row.rowOf graph second := by
  rw [Diagram.mem_overlaps]
  constructor
  · rintro ⟨one, two, inside, rfl, rfl, meets⟩
    exact ⟨inside.map Node.id, (layered_overlap graph ranks one two).mp meets⟩
  · rintro ⟨inside, same⟩
    obtain ⟨nodes, part, ids⟩ := List.sublist_map_iff.mp inside
    match nodes, ids with
    | [one, two], ids =>
        obtain ⟨rfl, rfl⟩ : first = one.id ∧ second = two.id := by
          simpa only [List.map_cons, List.map_nil, List.cons.injEq, and_true] using ids
        exact ⟨one, two, part, rfl, rfl, (layered_overlap graph ranks one two).mpr same⟩

theorem settled_apart (graph : Graph) (sound : graph.Sound) (columns : String → Nat)
    (known : ∀ id ∈ graph.ids, Rank.InColumn graph id (columns id)) (first second : String)
    (inside : [first, second].Sublist graph.ids) (settled : Rank.Settled graph first)
    (otherSettled : Rank.Settled graph second)
    (row : Row.rowOf graph first = Row.rowOf graph second) : columns first ≠ columns second := by
  have apart : first ≠ second := by
    have distinct := sound.distinct.sublist inside
    simpa using distinct
  have member : first ∈ graph.ids := inside.subset List.mem_cons_self
  have other : second ∈ graph.ids := inside.subset (List.mem_cons_of_mem _ List.mem_cons_self)
  have one := known first member
  have two := known second other
  rcases Row.same_row_leads graph sound.single_start first second member other apart row with
    behind | behind
  · exact Nat.ne_of_lt (Rank.settled_columns_grow graph first second _ _ otherSettled behind one two)
  · exact Nat.ne_of_gt (Rank.settled_columns_grow graph second first _ _ settled behind two one)

end Placement

namespace Diagram

/-- Boxes in layers overlap exactly when their nodes share a row and a column, and then one of the two
nodes is on a cycle or behind one. -/
theorem layered_boxes_overlap_iff (tables : Table String (RoleTable ℚ)) (requested : Strategy)
    (graph : Graph) (accepted : graph.defects = [])
    (layers : strategyFor tables requested graph = .layered) :
    ∃ (diagram : Diagram ℚ) (columns : String → Nat),
      ofGraph tables requested graph = .ok diagram ∧
      (∀ node ∈ graph.nodes, ∃ box, Table.get? node.id diagram.boxes = some box) ∧
      (∀ id ∈ graph.ids, Rank.InColumn graph id (columns id)) ∧
      (∀ first second, (first, second) ∈ diagram.overlappingPairs ↔
        [first, second].Sublist graph.ids ∧ columns first = columns second ∧
          Row.rowOf graph first = Row.rowOf graph second) ∧
      ∀ first second, (first, second) ∈ diagram.overlappingPairs →
        ¬ (Rank.Settled graph first ∧ Rank.Settled graph second) := by
  have sound := (Graph.sound_iff graph).mpr accepted
  obtain ⟨ranks, found, known⟩ := Rank.ranks_columns graph sound.distinct sound.connected
  obtain ⟨boxes, placed, whole⟩ :=
    place_ok tables (strategyFor tables requested graph) graph sound.distinct sound.connected
  obtain ⟨diagram, laid, same, _⟩ :=
    of_graph_ok tables requested graph sound.connected boxes placed whole
  have entries : diagram.boxes = graph.nodes.map fun node =>
      (node.id, (Placement.layeredBox ranks (Row.ofGraph graph) node : Box ℚ)) := by
    rw [layers, place, Placement.layered_entries graph ranks found,
      Table.entries_distinct graph.nodes Node.id _ sound.distinct] at placed
    exact same.trans (Except.ok.inj placed).symm
  have pairs : ∀ first second, (first, second) ∈ diagram.overlappingPairs ↔
      [first, second].Sublist graph.ids ∧ Rank.rankOf ranks first = Rank.rankOf ranks second ∧
        Row.rowOf graph first = Row.rowOf graph second := by
    intro first second
    rw [overlappingPairs, entries]
    exact Placement.layered_pairs graph ranks first second
  refine ⟨diagram, Rank.rankOf ranks, laid, ?_, known, pairs, ?_⟩
  · intro node member
    rw [same]
    exact Table.get_exists _ _ (whole _ (List.mem_map_of_mem member))
  · rintro first second meets ⟨settled, otherSettled⟩
    obtain ⟨inside, column, row⟩ := (pairs first second).mp meets
    exact Placement.settled_apart graph sound _ known first second inside settled otherSettled row
      column

/-- A check sends a text back for rework; it stands third, as many edges after the start as the next
node in its row. -/
def reworkGraph : Graph where
  nodes := [
    { id := "start", elementId := "Start", kind := .startEvent },
    { id := "check", elementId := "Check", kind := .exclusiveGateway },
    { id := "send", elementId := "Send", kind := .task },
    { id := "fix", elementId := "Fix", kind := .task },
    { id := "write", elementId := "Write", kind := .task },
    { id := "end", elementId := "End", kind := .endEvent }]
  edges := [
    { source := "start", target := "write" }, { source := "write", target := "check" },
    { source := "check", target := "send", condition := some "ok" },
    { source := "check", target := "fix", condition := some "rework" },
    { source := "fix", target := "check" }, { source := "send", target := "end" }]

theorem rework_boxes_overlap :
    reworkGraph.defects = [] ∧ ¬ Rank.Acyclic reworkGraph ∧
      strategyFor ([] : Table String (RoleTable ℚ)) .auto reworkGraph = .layered ∧
      ∃ (diagram : Diagram ℚ) (columns : String → Nat),
        ofGraph [] .auto reworkGraph = .ok diagram ∧
        ("check", "send") ∈ diagram.overlappingPairs ∧ columns "check" = columns "send" ∧
        Rank.InColumn reworkGraph "check" (columns "check") ∧
        Rank.InColumn reworkGraph "send" (columns "send") := by
  have accepted : reworkGraph.defects = [] := by decide +kernel
  have layers : strategyFor ([] : Table String (RoleTable ℚ)) .auto reworkGraph = .layered := rfl
  have circle : ¬ Rank.Acyclic reworkGraph := by
    intro acyclic
    have forward : Reach.Linked reworkGraph.links "check" "fix" :=
      (Graph.linked_iff _ _ _).mpr (by decide)
    have back : Reach.Linked reworkGraph.links "fix" "check" :=
      (Graph.linked_iff _ _ _).mpr (by decide)
    exact acyclic "check" (.tail (.single forward) back)
  obtain ⟨diagram, columns, found, _, known, pairs, _⟩ :=
    layered_boxes_overlap_iff [] .auto reworkGraph accepted layers
  have computed : (ofGraph [] .auto reworkGraph : Except _ (Diagram ℚ)).map overlappingPairs =
      .ok [("check", "send")] := by
    decide +kernel
  rw [found] at computed
  have meets : ("check", "send") ∈ diagram.overlappingPairs := by
    rw [Except.ok.inj computed]
    exact List.mem_singleton_self _
  have column := ((pairs "check" "send").mp meets).2.1
  exact ⟨accepted, circle, layers, diagram, columns, found, meets, column,
    known "check" (by decide), known "send" (by decide)⟩

end Diagram

end ProcessDiagram
