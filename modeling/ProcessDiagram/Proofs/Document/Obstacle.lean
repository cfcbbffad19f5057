import ProcessDiagram.Proofs.Document.Stamps

set_option autoImplicit false

namespace ProcessDiagram.Document

def Connected (graph : Graph) (edge : Edge) : Prop :=
  edge.source ∈ graph.ids ∧ edge.target ∈ graph.ids

def Joined (graph : Graph) : Prop :=
  ∀ edge ∈ graph.edges, Connected graph edge

-- The end of an edge that is no node; the source is looked up first.
inductive Lost (graph : Graph) (edge : Edge) : String → Prop where
  | source (unknown : edge.source ∉ graph.ids) : Lost graph edge edge.source
  | target (known : edge.source ∈ graph.ids) (unknown : edge.target ∉ graph.ids) :
      Lost graph edge edge.target

theorem flow_exists (graph : Graph) (token : String) (entry : Edge × Nat) :
    (∃ flow, flowOf graph token entry = .ok flow) ↔ Connected graph entry.1 := by
  constructor
  · rintro ⟨flow, found⟩
    obtain ⟨source, target, sourceFound, targetFound, _⟩ := flow_of_ok graph token entry flow found
    obtain ⟨sourceMember, sourceId⟩ := Graph.found_member _ _ _ sourceFound
    obtain ⟨targetMember, targetId⟩ := Graph.found_member _ _ _ targetFound
    exact ⟨sourceId ▸ List.mem_map_of_mem sourceMember, targetId ▸ List.mem_map_of_mem targetMember⟩
  · rintro ⟨source, target⟩
    obtain ⟨first, firstFound⟩ := Graph.node_found _ _ source
    obtain ⟨second, secondFound⟩ := Graph.node_found _ _ target
    refine ⟨⟨flowId token entry.2, entry.1, first.elementId, second.elementId⟩, ?_⟩
    simp only [flowOf, firstFound, secondFound]

theorem flow_fails (graph : Graph) (token : String) (entry : Edge × Nat) (failure : Failure) :
    flowOf graph token entry = .error failure ↔
      ∃ id, Lost graph entry.1 id ∧ failure = .unknownNode (entry.2 + 1) id := by
  constructor
  · intro failed
    rw [flowOf] at failed
    split at failed
    · cases failed
    · rename_i unknown
      cases failed
      exact ⟨_, .source ((Graph.unknown_iff _ _).mp unknown), rfl⟩
    · rename_i unknown known
      cases failed
      have source : entry.1.source ∈ graph.ids := by
        by_contra missing
        exact known ((Graph.unknown_iff _ _).mpr missing)
      exact ⟨_, .target source ((Graph.unknown_iff _ _).mp unknown), rfl⟩
  · rintro ⟨id, lost, rfl⟩
    cases lost with
    | source unknown =>
        have missing := (Graph.unknown_iff _ _).mpr unknown
        simp only [flowOf, missing]
    | target known unknown =>
        obtain ⟨source, found⟩ := Graph.node_found _ _ known
        have missing := (Graph.unknown_iff _ _).mpr unknown
        simp only [flowOf, found, missing]

theorem flows_fail (graph : Graph) (token : String) (failure : Failure) :
    flowsOf graph token = .error failure ↔
      ∃ index edge id, Each.First (Connected graph) graph.edges index edge ∧ Lost graph edge id ∧
        failure = .unknownNode (index + 1) id := by
  have numbered := Each.first_map (Connected graph) Prod.fst graph.edges.zipIdx
  rw [List.zipIdx_map_fst] at numbered
  rw [flowsOf, Each.first_error]
  simp only [flow_exists, flow_fails]
  constructor
  · rintro ⟨index, entry, first, id, lost, rfl⟩
    rw [Each.first_place _ _ _ _ first]
    exact ⟨index, entry.1, id, (numbered index entry.1).mpr ⟨entry, first, rfl⟩, lost, rfl⟩
  · rintro ⟨index, edge, id, first, lost, rfl⟩
    obtain ⟨entry, found, rfl⟩ := (numbered index edge).mp first
    refine ⟨index, entry, found, id, lost, ?_⟩
    rw [Each.first_place _ _ _ _ found]

theorem flows_succeed (graph : Graph) (token : String) :
    (∃ flows, flowsOf graph token = .ok flows) ↔ Joined graph := by
  rw [flowsOf, Each.all_succeed]
  simp only [flow_exists]
  constructor
  · intro each edge member
    obtain ⟨index, found⟩ := List.mem_iff_getElem?.mp member
    exact each (edge, index) (List.mem_zipIdx_iff_getElem?.mpr found)
  · intro each entry member
    exact each entry.1 (List.fst_mem_of_mem_zipIdx member)

theorem flows_numbered (graph : Graph) (token : String) (flows : List Flow)
    (found : flowsOf graph token = .ok flows) :
    flows.length = graph.edges.length ∧
      ∀ entry ∈ flows.zipIdx, entry.1.id = flowId token entry.2 := by
  have each := (Each.all_ok _ _ _).mp found
  have count : flows.length = graph.edges.length := by
    rw [← each.length_eq, List.length_zipIdx]
  refine ⟨count, ?_⟩
  intro entry member
  obtain ⟨bound, there⟩ := List.getElem?_eq_some_iff.mp (List.mem_zipIdx_iff_getElem?.mp member)
  have one := each.get (by simpa [count] using bound) bound
  obtain ⟨_, _, _, _, same⟩ := flow_of_ok graph token _ _ one
  simp only [List.get_eq_getElem, List.getElem_zipIdx, Nat.zero_add] at same
  rw [← there, same]

def Placed (diagram : Diagram Float) (id : String) : Prop :=
  ∃ box, Table.get? id diagram.boxes = some box

def Routed (diagram : Diagram Float) (index : Nat) : Prop :=
  ∃ points, Table.get? (index : Int) diagram.routes = some points ∧ 2 ≤ points.length

theorem position_exists (diagram : Diagram Float) (node : Node) :
    (∃ shape, positionOf diagram node = .ok shape) ↔ Placed diagram node.id := by
  constructor
  · rintro ⟨shape, found⟩
    exact ⟨shape.2, (position_of_ok diagram node shape found).1⟩
  · rintro ⟨box, known⟩
    refine ⟨(node, box), ?_⟩
    simp only [positionOf, known]

theorem position_fails (diagram : Diagram Float) (node : Node) (failure : Failure)
    (lacking : ¬ Placed diagram node.id) :
    positionOf diagram node = .error failure ↔
      failure = .withoutPosition node.label node.elementId := by
  rw [positionOf]
  split
  · rename_i box known
    exact absurd ⟨box, known⟩ lacking
  · rw [Except.error.injEq, eq_comm]

theorem path_exists (diagram : Diagram Float) (entry : Flow × Nat) :
    (∃ edge, pathOf diagram entry = .ok edge) ↔ Routed diagram entry.2 := by
  constructor
  · rintro ⟨edge, found⟩
    refine ⟨edge.2.points, (path_of_ok diagram entry edge found).1, ?_⟩
    simp [Path.points]
  · rintro ⟨points, known, enough⟩
    match points, enough with
    | first :: second :: others, _ =>
        refine ⟨(entry.1, ⟨first, second, others⟩), ?_⟩
        simp only [pathOf, known]

theorem path_fails (diagram : Diagram Float) (entry : Flow × Nat) (failure : Failure)
    (lacking : ¬ Routed diagram entry.2) :
    pathOf diagram entry = .error failure ↔ failure = .withoutRoute entry.1.id := by
  rw [pathOf]
  split
  · rename_i first second others known
    exact absurd ⟨_, known, by simp⟩ lacking
  · rw [Except.error.injEq, eq_comm]

theorem shapes_fail (diagram : Diagram Float) (nodes : List Node) (failure : Failure) :
    nodes.mapM (positionOf diagram) = .error failure ↔
      ∃ index node, Each.First (fun other => Placed diagram other.id) nodes index node ∧
        failure = .withoutPosition node.label node.elementId := by
  rw [Each.first_error]
  simp only [position_exists]
  refine exists₂_congr fun index node => and_congr_right fun first => ?_
  exact position_fails diagram node failure first.bad

theorem edges_fail (graph : Graph) (token : String) (diagram : Diagram Float) (flows : List Flow)
    (found : flowsOf graph token = .ok flows) (failure : Failure) :
    flows.zipIdx.mapM (pathOf diagram) = .error failure ↔
      ∃ index, Each.First (Routed diagram) (List.range graph.edges.length) index index ∧
        failure = .withoutRoute (flowId token index) := by
  obtain ⟨count, named⟩ := flows_numbered graph token flows found
  have numbered := Each.first_map (Routed diagram) Prod.snd flows.zipIdx
  rw [List.zipIdx_map_snd, ← List.range_eq_range', count] at numbered
  have id : ∀ index entry, Each.First (fun other => Routed diagram other.2) flows.zipIdx index entry →
      entry.1.id = flowId token index := by
    intro index entry first
    rw [named entry first.member, Each.first_place _ _ _ _ first]
  rw [Each.first_error]
  simp only [path_exists]
  constructor
  · rintro ⟨index, entry, first, failed⟩
    have place := Each.first_place _ _ _ _ first
    refine ⟨index, (numbered index index).mpr ⟨entry, first, place⟩, ?_⟩
    rw [← id index entry first]
    exact (path_fails diagram entry failure first.bad).mp failed
  · rintro ⟨index, first, rfl⟩
    obtain ⟨entry, found, _⟩ := (numbered index index).mp first
    refine ⟨index, entry, found, (path_fails diagram entry _ found.bad).mpr ?_⟩
    rw [id index entry found]

-- What keeps a subject from being written; each kind counts only where none of the earlier ones does.
inductive Obstacle (options : Options) (subject : Subject) : Failure → Prop where
  | edge (index : Nat) (edge : Edge) (id : String)
      (first : Each.First (Connected subject.graph) subject.graph.edges index edge)
      (lost : Lost subject.graph edge id) : Obstacle options subject (.unknownNode (index + 1) id)
  | text (failure : Failure)
      (joined : Joined subject.graph)
      (refused : Refused (rawTexts options subject) failure) : Obstacle options subject failure
  | box (index : Nat) (node : Node)
      (joined : Joined subject.graph)
      (worded : Worded (rawTexts options subject))
      (first : Each.First (fun other => Placed subject.diagram other.id) subject.graph.nodes index
        node) :
      Obstacle options subject (.withoutPosition node.label node.elementId)
  | route (index : Nat)
      (joined : Joined subject.graph)
      (worded : Worded (rawTexts options subject))
      (placed : ∀ node ∈ subject.graph.nodes, Placed subject.diagram node.id)
      (first : Each.First (Routed subject.diagram) (List.range subject.graph.edges.length) index
        index) : Obstacle options subject (.withoutRoute (flowId subject.token index))

variable (options : Options) (subject : Subject)

theorem write_fails (failure : Failure) :
    write options subject = .error failure ↔ Obstacle options subject failure := by
  have passed := flows_succeed subject.graph subject.token
  have texts := raw_all_checked (rawTexts options subject)
  have shapes := Each.all_succeed (positionOf subject.diagram) subject.graph.nodes
  simp only [position_exists] at shapes
  rw [write, Each.mapped_error, tree, Each.bind_error, flows_fail]
  constructor
  · rintro (⟨index, edge, id, first, lost, rfl⟩ | ⟨flows, found, failed⟩)
    · exact .edge index edge id first lost
    have joined := passed.mp ⟨flows, found⟩
    rcases (Each.bind_error _ _ _).mp failed with refused | ⟨_, checked, failed⟩
    · exact .text failure joined ((refused_iff _ _).mp refused)
    have worded := texts.mp checked
    rcases (Each.bind_error _ _ _).mp failed with unplaced | ⟨boxes, drawn, failed⟩
    · obtain ⟨index, node, first, rfl⟩ := (shapes_fail _ _ _).mp unplaced
      exact .box index node joined worded first
    have placed := shapes.mp ⟨boxes, drawn⟩
    rcases (Each.bind_error _ _ _).mp failed with unrouted | ⟨_, _, done⟩
    · obtain ⟨index, first, rfl⟩ := (edges_fail _ _ _ flows found _).mp unrouted
      exact .route index joined worded placed first
    · cases done
  · intro obstacle
    cases obstacle with
    | edge index edge id first lost => exact .inl ⟨index, edge, id, first, lost, rfl⟩
    | text _ joined refused =>
        obtain ⟨flows, found⟩ := passed.mpr joined
        refine .inr ⟨flows, found, ?_⟩
        rw [(refused_iff _ _).mpr refused]
        rfl
    | box index node joined worded first =>
        obtain ⟨flows, found⟩ := passed.mpr joined
        refine .inr ⟨flows, found, ?_⟩
        rw [texts.mpr worded, (shapes_fail _ _ _).mpr ⟨index, node, first, rfl⟩]
        rfl
    | route index joined worded placed first =>
        obtain ⟨flows, found⟩ := passed.mpr joined
        obtain ⟨boxes, drawn⟩ := shapes.mpr placed
        refine .inr ⟨flows, found, ?_⟩
        have unrouted := (edges_fail _ _ _ flows found _).mpr ⟨index, first, rfl⟩
        rw [texts.mpr worded, drawn]
        simp only [bind, Except.bind, unrouted]

structure Drawn (subject : Subject) : Prop where
  placed : ∀ node ∈ subject.graph.nodes, Placed subject.diagram node.id
  routed : ∀ index < subject.graph.edges.length, Routed subject.diagram index

theorem end_lost (graph : Graph) (edge : Edge) (loose : ¬ Connected graph edge) :
    ∃ id, Lost graph edge id := by
  by_cases known : edge.source ∈ graph.ids
  · exact ⟨edge.target, .target known fun other => loose ⟨known, other⟩⟩
  · exact ⟨edge.source, .source known⟩

theorem edge_obstacle :
    (∃ number id, Obstacle options subject (.unknownNode number id)) ↔ ¬ Joined subject.graph := by
  constructor
  · rintro ⟨number, id, obstacle⟩ joined
    cases obstacle with
    | edge index edge _ first => exact first.bad (joined edge first.member)
    | text _ _ refused => simpa using refused_kind _ _ refused
  · intro loose
    rw [Joined] at loose
    push Not at loose
    obtain ⟨index, edge, first⟩ := (Each.first_exists _ _).mpr loose
    obtain ⟨id, lost⟩ := end_lost subject.graph edge first.bad
    exact ⟨index + 1, id, .edge index edge id first lost⟩

theorem text_obstacle :
    (Obstacle options subject .forbiddenCharacter ∨
        ∃ kind, Obstacle options subject (.noText kind)) ↔
      Joined subject.graph ∧ ¬ Worded (rawTexts options subject) := by
  rw [← refused_exists]
  constructor
  · rintro (obstacle | ⟨kind, obstacle⟩)
    · cases obstacle with
      | text _ joined refused => exact ⟨joined, _, refused⟩
    · cases obstacle with
      | text _ joined refused => exact ⟨joined, _, refused⟩
  · rintro ⟨joined, failure, refused⟩
    rcases refused_kind _ _ refused with rfl | ⟨kind, rfl⟩
    · exact .inl (.text _ joined refused)
    · exact .inr ⟨kind, .text _ joined refused⟩

theorem layout_obstacle :
    ((∃ label id, Obstacle options subject (.withoutPosition label id)) ∨
        ∃ id, Obstacle options subject (.withoutRoute id)) ↔
      Joined subject.graph ∧ Worded (rawTexts options subject) ∧ ¬ Drawn subject := by
  constructor
  · rintro (⟨label, id, obstacle⟩ | ⟨id, obstacle⟩)
    · cases obstacle with
      | text _ _ refused => simpa using refused_kind _ _ refused
      | box index node joined worded first =>
          refine ⟨joined, worded, fun drawn => ?_⟩
          exact first.bad (drawn.placed node first.member)
    · cases obstacle with
      | text _ _ refused => simpa using refused_kind _ _ refused
      | route index joined worded _ first =>
          refine ⟨joined, worded, fun drawn => ?_⟩
          exact first.bad (drawn.routed index (List.mem_range.mp first.member))
  · rintro ⟨joined, worded, undrawn⟩
    by_cases placed : ∀ node ∈ subject.graph.nodes, Placed subject.diagram node.id
    · have unrouted : ∃ index ∈ List.range subject.graph.edges.length,
          ¬ Routed subject.diagram index := by
        by_contra none
        push Not at none
        exact undrawn ⟨placed, fun index bound => none index (List.mem_range.mpr bound)⟩
      obtain ⟨index, other, first⟩ := (Each.first_exists _ _).mpr unrouted
      obtain ⟨_, rfl⟩ := List.getElem?_eq_some_iff.mp first.found
      rw [List.getElem_range] at first
      exact .inr ⟨_, .route index joined worded placed first⟩
    · push Not at placed
      obtain ⟨index, node, first⟩ := (Each.first_exists _ _).mpr placed
      exact .inl ⟨_, _, .box index node joined worded first⟩

theorem obstacle_exists :
    (∃ failure, Obstacle options subject failure) ↔
      ¬ (Joined subject.graph ∧ Worded (rawTexts options subject) ∧ Drawn subject) := by
  have edges := edge_obstacle options subject
  have texts := text_obstacle options subject
  have layout := layout_obstacle options subject
  constructor
  · rintro ⟨failure, obstacle⟩ ⟨joined, worded, drawn⟩
    cases failure with
    | unknownNode number id => exact edges.mp ⟨number, id, obstacle⟩ joined
    | forbiddenCharacter => exact (texts.mp (.inl obstacle)).2 worded
    | noText kind => exact (texts.mp (.inr ⟨kind, obstacle⟩)).2 worded
    | withoutPosition label id => exact (layout.mp (.inl ⟨label, id, obstacle⟩)).2.2 drawn
    | withoutRoute id => exact (layout.mp (.inr ⟨id, obstacle⟩)).2.2 drawn
  · intro lacking
    by_cases joined : Joined subject.graph
    · by_cases worded : Worded (rawTexts options subject)
      · have undrawn : ¬ Drawn subject := fun drawn => lacking ⟨joined, worded, drawn⟩
        rcases layout.mpr ⟨joined, worded, undrawn⟩ with ⟨_, _, obstacle⟩ | ⟨_, obstacle⟩
        · exact ⟨_, obstacle⟩
        · exact ⟨_, obstacle⟩
      · rcases texts.mpr ⟨joined, worded⟩ with obstacle | ⟨_, obstacle⟩
        · exact ⟨_, obstacle⟩
        · exact ⟨_, obstacle⟩
    · obtain ⟨_, _, obstacle⟩ := edges.mpr joined
      exact ⟨_, obstacle⟩

theorem write_succeeds :
    (∃ text, write options subject = .ok text) ↔
      Joined subject.graph ∧ Worded (rawTexts options subject) ∧ Drawn subject := by
  rw [← not_iff_not, ← obstacle_exists]
  simp only [← write_fails]
  cases write options subject with
  | ok text => simp
  | error failure => simp

end ProcessDiagram.Document
