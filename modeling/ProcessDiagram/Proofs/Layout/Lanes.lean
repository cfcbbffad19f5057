import ProcessDiagram.Proofs.Layout.Branches

set_option autoImplicit false

namespace ProcessDiagram

namespace Placement

variable (actors : List String) (lane : Nat) (nodes : List Node) (index : Nat) (node : Node)

theorem actor_lane (here : nodes[index]? = some node) (acts : node.actor ≠ "") :
    (lanesFrom actors lane nodes)[index]? = some (actors.idxOf node.actor) := by
  induction nodes generalizing lane index with
  | nil => cases here
  | cons first rest ih =>
      cases index with
      | zero =>
          cases here
          simp [lanesFrom, acts]
      | succ index => exact ih _ index here

theorem first_lane (here : nodes[0]? = some node) (idle : node.actor = "") :
    (lanesFrom actors lane nodes)[0]? = some lane := by
  cases nodes with
  | nil => cases here
  | cons first rest =>
      cases here
      simp [lanesFrom, idle]

theorem lane_carried (here : nodes[index + 1]? = some node) (idle : node.actor = "") :
    (lanesFrom actors lane nodes)[index + 1]? = (lanesFrom actors lane nodes)[index]? := by
  induction nodes generalizing lane index with
  | nil => cases here
  | cons first rest ih =>
      cases index with
      | zero => exact first_lane actors _ rest node here idle
      | succ index => exact ih _ index here

theorem lane_found (here : nodes[index]? = some node) :
    ∃ own, (lanesFrom actors lane nodes)[index]? = some own := by
  have bound := (List.getElem?_eq_some_iff.mp here).1
  rw [← lanes_length actors lane nodes] at bound
  exact ⟨_, List.getElem?_eq_getElem bound⟩

def laneHeight (lane : Nat) : ℚ :=
  175 + lane * 150

theorem lane_height_below (first second : Nat) :
    laneHeight first < laneHeight second ↔ first < second := by
  rw [laneHeight, laneHeight, add_lt_add_iff_left, mul_lt_mul_iff_left₀ (by norm_num), Nat.cast_lt]

theorem lane_height_injective (first second : Nat) :
    laneHeight first = laneHeight second ↔ first = second := by
  rw [laneHeight, laneHeight, add_right_inj, mul_left_inj' (by norm_num), Nat.cast_inj]

theorem lane_center (entry : (Node × Nat) × Nat) :
    (lanesBox entry : Box ℚ).center = ⟨column entry.2 + 50, laneHeight entry.1.2⟩ := by
  rw [lanesBox, Box.centered_center, half_column entry.2 laneTaskWidth 50 rfl]
  exact congrArg _ ((Scalar.of_nat _).trans (by rw [laneHeight]; push_cast; ring))

end Placement

namespace Graph

def Shared (graph : Graph) : Prop :=
  ∃ one ∈ graph.nodes, ∃ two ∈ graph.nodes, one.actor ≠ "" ∧ two.actor ≠ "" ∧
    one.actor ≠ two.actor

variable (graph : Graph)

theorem mem_actors (actor : String) :
    actor ∈ graph.actors ↔ actor ≠ "" ∧ ∃ node ∈ graph.nodes, node.actor = actor := by
  rw [actors, List.mem_eraseDups, List.mem_filter, List.mem_map, decide_eq_true_eq, and_comm]

theorem actors_distinct : graph.actors.Nodup :=
  Each.once_distinct _

theorem shared_actors (shared : graph.Shared) : ¬ graph.actors.length < 2 := by
  obtain ⟨one, member, two, other, acts, also, apart⟩ := shared
  have first := (graph.mem_actors one.actor).mpr ⟨acts, one, member, rfl⟩
  have second := (graph.mem_actors two.actor).mpr ⟨also, two, other, rfl⟩
  intro few
  match listed : graph.actors, few with
  | [], _ =>
      rw [listed] at first
      cases first
  | [only], _ =>
      rw [listed, List.mem_singleton] at first second
      exact apart (first.trans second.symm)

end Graph

namespace Diagram

open Placement (laneHeight lanesFrom column)

structure Laned (graph : Graph) (diagram : Diagram ℚ) : Prop where
  together : ∀ one ∈ graph.nodes, ∀ two ∈ graph.nodes, one.actor ≠ "" → two.actor ≠ "" →
    (diagram.height? one.id = diagram.height? two.id ↔ one.actor = two.actor)
  -- An actor who occurs for the first time has a lane below those of all before.
  ordered : ∀ before two after, graph.nodes = before ++ two :: after → two.actor ≠ "" →
    (∀ other ∈ before, other.actor ≠ two.actor) → ∀ one ∈ before, one.actor ≠ "" →
      ∃ upper lower, diagram.height? one.id = some upper ∧
        diagram.height? two.id = some lower ∧ upper < lower
  contiguous : ∀ height, (∃ node ∈ graph.nodes, node.actor ≠ "" ∧
    diagram.height? node.id = some height) ↔ ∃ lane < graph.actors.length, laneHeight lane = height
  carried : ∀ before one two after, graph.nodes = before ++ one :: two :: after → two.actor = "" →
    diagram.height? two.id = diagram.height? one.id
  leading : ∀ node after, graph.nodes = node :: after → node.actor = "" →
    diagram.height? node.id = some (laneHeight 0)
  onward : graph.nodes.Pairwise fun one two => ∃ left right, diagram.middle? one.id = some left ∧
    diagram.middle? two.id = some right ∧ left.x < right.x

section Lanes

variable (graph : Graph) (distinct : graph.ids.Nodup) (diagram : Diagram ℚ)
  (boxes : diagram.boxes = Placement.lanes graph)

include distinct boxes

theorem lane_middle (index : Nat) (node : Node) (lane : Nat)
    (here : graph.nodes[index]? = some node)
    (own : (lanesFrom graph.actors 0 graph.nodes)[index]? = some lane) :
    diagram.middle? node.id = some ⟨column index + 50, laneHeight lane⟩ := by
  have listed : ((node, lane), index) ∈
      (graph.nodes.zip (lanesFrom graph.actors 0 graph.nodes)).zipIdx :=
    List.mem_zipIdx_iff_getElem?.mpr (List.getElem?_zip_eq_some.mpr ⟨here, own⟩)
  have entry := Table.get_entry _ (fun entry : (Node × Nat) × Nat => entry.1.1.id)
    (fun entry => (Placement.lanesBox entry : Box ℚ)) (Placement.lane_ids graph ▸ distinct) _ listed
  rw [← Placement.lanes_entries, ← boxes] at entry
  rw [middle?, entry, Option.map_some, Placement.lane_center]

theorem lane_at (index : Nat) (node : Node) (here : graph.nodes[index]? = some node) :
    diagram.height? node.id =
      ((lanesFrom graph.actors 0 graph.nodes)[index]?).map laneHeight := by
  obtain ⟨lane, own⟩ := Placement.lane_found graph.actors 0 graph.nodes index node here
  rw [height?, lane_middle graph distinct diagram boxes index node lane here own, own]
  rfl

theorem actor_height (node : Node) (member : node ∈ graph.nodes) (acts : node.actor ≠ "") :
    diagram.height? node.id = some (laneHeight (graph.actors.idxOf node.actor)) := by
  obtain ⟨index, here⟩ := List.mem_iff_getElem?.mp member
  rw [lane_at graph distinct diagram boxes index node here,
    Placement.actor_lane graph.actors 0 graph.nodes index node here acts]
  rfl

theorem lanes_laned : Laned graph diagram where
  together := by
    intro one member two other acts also
    rw [actor_height graph distinct diagram boxes one member acts,
      actor_height graph distinct diagram boxes two other also, Option.some.injEq,
      Placement.lane_height_injective]
    exact List.idxOf_inj ((graph.mem_actors _).mpr ⟨acts, one, member, rfl⟩)
  ordered := by
    intro before two after shape acts new one member also
    have inside : one ∈ graph.nodes := shape ▸ List.mem_append_left _ member
    have listed : two ∈ graph.nodes := shape ▸ List.mem_append_right _ List.mem_cons_self
    refine ⟨_, _, actor_height graph distinct diagram boxes one inside also,
      actor_height graph distinct diagram boxes two listed acts, ?_⟩
    rw [Placement.lane_height_below, Graph.actors, shape, List.map_append, List.filter_append]
    apply Each.once_before
    · simpa using ⟨⟨one, member, rfl⟩, also⟩
    · simp only [List.mem_filter, List.mem_map, not_and, forall_exists_index, and_imp]
      intro other earlier same
      exact absurd same (new other earlier)
  contiguous := by
    intro height
    constructor
    · rintro ⟨node, member, acts, found⟩
      rw [actor_height graph distinct diagram boxes node member acts] at found
      exact ⟨_, List.idxOf_lt_length_of_mem ((graph.mem_actors _).mpr ⟨acts, node, member, rfl⟩),
        Option.some.inj found⟩
    · rintro ⟨lane, bound, rfl⟩
      obtain ⟨acts, node, member, same⟩ := (graph.mem_actors _).mp (List.getElem_mem bound)
      rw [← same] at acts
      refine ⟨node, member, acts, ?_⟩
      rw [actor_height graph distinct diagram boxes node member acts, same,
        graph.actors_distinct.idxOf_getElem lane bound]
  carried := by
    intro before one two after shape idle
    have here : graph.nodes[before.length]? = some one := by simp [shape]
    have next : graph.nodes[before.length + 1]? = some two := by simp [shape]
    rw [lane_at graph distinct diagram boxes _ one here,
      lane_at graph distinct diagram boxes _ two next,
      Placement.lane_carried graph.actors 0 graph.nodes _ two next idle]
  leading := by
    intro node after shape idle
    have here : graph.nodes[0]? = some node := by simp [shape]
    rw [lane_at graph distinct diagram boxes 0 node here,
      Placement.first_lane graph.actors 0 graph.nodes node here idle]
    rfl
  onward := by
    rw [List.pairwise_iff_getElem]
    intro first second low high before
    have one := List.getElem?_eq_getElem low
    have two := List.getElem?_eq_getElem high
    obtain ⟨_, upper⟩ := Placement.lane_found graph.actors 0 graph.nodes _ _ one
    obtain ⟨_, lower⟩ := Placement.lane_found graph.actors 0 graph.nodes _ _ two
    refine ⟨_, _, lane_middle graph distinct diagram boxes _ _ _ one upper,
      lane_middle graph distinct diagram boxes _ _ _ two lower, ?_⟩
    have apart := Placement.column_before first second before
    have wide := Placement.task_width
    simp only
    linarith

end Lanes

theorem lanes_chosen (tables : Table String (RoleTable ℚ)) (graph : Graph)
    (straight : graph.hasGateways = false) (shared : graph.Shared) :
    strategyFor tables .lanes graph = .lanes := by
  have many := graph.shared_actors shared
  rw [strategyFor, Strategy.resolve, straight, Bool.false_or, if_neg (by simpa using many)]

/-- There is a lane for each actor, from top to bottom in the order in which they first occur; a node
without one stands in the lane of the node before it. Equal ids would share a box. -/
theorem lanes_follow_actors (tables : Table String (RoleTable ℚ)) (graph : Graph)
    (distinct : graph.ids.Nodup) (straight : graph.hasGateways = false) (shared : graph.Shared) :
    (∀ diagram, ofGraph tables .lanes graph = .ok diagram → Laned graph diagram) ∧
      ((∃ diagram : Diagram ℚ, ofGraph tables .lanes graph = .ok diagram) ↔
        ∀ edge ∈ graph.edges, edge.source ∈ graph.ids ∧ edge.target ∈ graph.ids) := by
  have placed : place tables (strategyFor tables .lanes graph) graph =
      .ok (Placement.lanes graph : Boxes ℚ) := by
    rw [lanes_chosen tables graph straight shared]
    rfl
  have drawn_in_lanes : ∀ diagram, ofGraph tables .lanes graph = .ok diagram →
      diagram.boxes = Placement.lanes graph := by
    intro diagram drawn
    have made := (of_graph_made tables .lanes graph diagram drawn).1
    exact Except.ok.inj (made.symm.trans placed)
  constructor
  · exact fun diagram drawn => lanes_laned graph distinct diagram (drawn_in_lanes diagram drawn)
  · constructor
    · rintro ⟨diagram, drawn⟩ edge member
      have routed := (of_graph_made tables .lanes graph diagram drawn).2
      obtain ⟨index, here⟩ := List.mem_iff_getElem?.mp member
      obtain ⟨_, _, source, target, _⟩ := routes_by_place _ _ _ routed index edge here
      have known : ∀ id box, Table.get? id diagram.boxes = some box → id ∈ graph.ids := by
        intro id box found
        rw [drawn_in_lanes diagram drawn] at found
        have key : id ∈ Table.keys (Placement.lanes graph : Boxes ℚ) :=
          (Table.get_is_some id _).mp (by rw [found]; rfl)
        exact (Placement.keys_lanes graph id).mp key
      exact ⟨known _ _ source, known _ _ target⟩
    · intro connected
      obtain ⟨diagram, drawn, _⟩ := of_graph_ok tables .lanes graph connected _ placed
        (place_whole tables _ graph _ placed)
      exact ⟨diagram, drawn⟩

/-- Two steps that share an id, and so a box. -/
def twins : Graph where
  nodes := [
    { id := "desk", elementId := "Ask", kind := .task, actor := "clerk" },
    { id := "desk", elementId := "Answer", kind := .task, actor := "chief" }]

theorem twins_share_lane :
    twins.hasGateways = false ∧ twins.Shared ∧
      ∃ diagram : Diagram ℚ, ofGraph [] .lanes twins = .ok diagram ∧ ¬ Laned twins diagram := by
  refine ⟨rfl, ⟨_, .head _, _, .tail _ (.head _), by decide, by decide, by decide⟩, _, rfl, ?_⟩
  intro laned
  exact absurd ((laned.together _ (.head _) _ (.tail _ (.head _)) (by decide) (by decide)).mp rfl)
    (by decide)

/-- A request that goes from a clerk to the chief and back, with a step in between that nobody is
named for. -/
def approval : Graph where
  nodes := [
    { id := "start", elementId := "Start", kind := .startEvent },
    { id := "ask", elementId := "Ask", kind := .task, actor := "clerk" },
    { id := "sign", elementId := "Sign", kind := .userTask, actor := "chief" },
    { id := "file", elementId := "File", kind := .serviceTask },
    { id := "answer", elementId := "Answer", kind := .task, actor := "clerk" },
    { id := "end", elementId := "End", kind := .endEvent }]
  edges := [
    { source := "start", target := "ask" }, { source := "ask", target := "sign" },
    { source := "sign", target := "file" }, { source := "file", target := "answer" },
    { source := "answer", target := "end" }]

theorem approval_laned :
    approval.ids.Nodup ∧ approval.hasGateways = false ∧ approval.Shared ∧
      ∃ diagram : Diagram ℚ, ofGraph [] .lanes approval = .ok diagram ∧ Laned approval diagram := by
  have distinct : approval.ids.Nodup := by decide
  have shared : approval.Shared := ⟨_, .tail _ (.head _), _, .tail _ (.tail _ (.head _)),
    by decide, by decide, by decide⟩
  obtain ⟨laned, drawn⟩ := lanes_follow_actors [] approval distinct rfl shared
  obtain ⟨diagram, made⟩ := drawn.mpr (by decide)
  exact ⟨distinct, rfl, shared, diagram, made, laned diagram made⟩

end Diagram

end ProcessDiagram
