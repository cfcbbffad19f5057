import ProcessDiagram.Proofs.Identifier.Number
import ProcessDiagram.Proofs.Validation.Outline
import ProcessDiagram.Validation.Checker

set_option autoImplicit false

namespace ProcessDiagram.Validation

open Document (Parts)
open Reach (Leads)

variable {options : Document.Options} {subject : Document.Subject}

theorem when_nothing (condition : Bool) (issue : Issue) :
    when condition issue = [] ↔ condition = false := by
  cases condition <;> simp [when]

def outlineOf (parts : Parts options subject) : Outline :=
  ⟨entries subject.graph parts.flows, parts.flows.map flowEntry⟩

variable (parts : Parts options subject)

theorem has_node (node : Node) (member : node ∈ subject.graph.nodes) :
    (outlineOf parts).hasNode (some node.elementId) = true := by
  rw [Outline.hasNode, Table.get_is_some, outlineOf, key_entries]
  exact ⟨node, member, rfl⟩

theorem has_flow (flow : Document.Flow) (member : flow ∈ parts.flows) :
    (outlineOf parts).hasFlow (some flow.id) = true := by
  rw [Outline.hasFlow, List.contains_iff_mem, outlineOf, List.map_map]
  exact List.mem_map.mpr ⟨flow, member, rfl⟩

theorem no_dangling_ends : danglingEnds (outlineOf parts) = [] := by
  rw [danglingEnds, List.flatMap_eq_nil_iff]
  intro entry member
  obtain ⟨flow, inside, rfl⟩ := List.mem_map.mp member
  obtain ⟨_, ⟨source, sourceMember, _, sourceId⟩, target, targetMember, _, targetId⟩ :=
    parts.flow_joins flow inside
  have first := has_node parts source sourceMember
  have second := has_node parts target targetMember
  simp [danglingEnd, when_nothing, flowEntry, sourceId, targetId, first, second]

theorem no_dangling_references : danglingReferences (outlineOf parts) = [] := by
  rw [danglingReferences, List.flatMap_eq_nil_iff]
  intro entry member
  obtain ⟨node, _, rfl⟩ := (mem_entries _ _ entry).mp member
  have known : ∀ chosen : Document.Flow → Bool, ∀ name,
      ((parts.flows.filter chosen).map fun flow => some flow.id).flatMap
        (danglingReference (outlineOf parts) node.elementId name) = [] := by
    intro chosen name
    rw [List.flatMap_eq_nil_iff]
    intro reference inside
    obtain ⟨flow, kept, rfl⟩ := List.mem_map.mp inside
    rw [danglingReference, when_nothing, has_flow parts flow (List.mem_filter.mp kept).1]
    rfl
  exact List.append_eq_nil_iff.mpr ⟨known _ _, known _ _⟩

theorem same_node (sound : subject.graph.Sound) (first second : Node)
    (member : first ∈ subject.graph.nodes) (other : second ∈ subject.graph.nodes)
    (same : first.id = second.id) : first = second :=
  List.inj_on_of_nodup_map sound.distinct member other same

theorem flow_of_edge (sound : subject.graph.Sound) (edge : Edge)
    (member : edge ∈ subject.graph.edges) (source target : Node)
    (sourceMember : source ∈ subject.graph.nodes) (targetMember : target ∈ subject.graph.nodes)
    (leaves : source.id = edge.source) (enters : target.id = edge.target) :
    ⟨some source.elementId, some target.elementId⟩ ∈ (outlineOf parts).links := by
  obtain ⟨flow, inside, rfl⟩ := parts.edge_has_flow edge member
  obtain ⟨_, ⟨first, firstMember, firstId, firstElement⟩, second, secondMember, secondId,
    secondElement⟩ := parts.flow_joins flow inside
  have one := same_node sound source first sourceMember firstMember (leaves.trans firstId.symm)
  have two := same_node sound target second targetMember secondMember (enters.trans secondId.symm)
  rw [Outline.links, outlineOf, List.map_map]
  refine List.mem_map.mpr ⟨flow, inside, ?_⟩
  simp [flowEntry, one, two, firstElement, secondElement]

theorem events_counted (sound : subject.graph.Sound) (ended : subject.graph.ends ≠ []) :
    eventCounts (outlineOf parts) = [] := by
  obtain ⟨start, only⟩ := sound.start
  rw [Graph.starts] at only
  rw [Graph.ends] at ended
  rw [eventCounts, outlineOf, kind_entries, kind_entries, only]
  simp [when_nothing, ended]

theorem node_with_id (id : String) (known : id ∈ subject.graph.ids) :
    ∃ node ∈ subject.graph.nodes, node.id = id :=
  List.mem_map.mp known

theorem link_ends (source target : Option String)
    (link : (source, target) ∈ (outlineOf parts).links) :
    source ∈ (outlineOf parts).flows.map Flow.source ∧
      target ∈ (outlineOf parts).flows.map Flow.target := by
  obtain ⟨flow, member, same⟩ := List.mem_map.mp link
  exact ⟨List.mem_map.mpr ⟨flow, member, congrArg Prod.fst same⟩,
    List.mem_map.mpr ⟨flow, member, congrArg Prod.snd same⟩⟩

theorem entered_by_flow (sound : subject.graph.Sound) (node : Node)
    (member : node ∈ subject.graph.nodes) (other : node.kind ≠ .startEvent) :
    some node.elementId ∈ (outlineOf parts).flows.map Flow.target := by
  have some_edge := mt (sound.entered node member).mp other
  obtain ⟨edge, chosen⟩ := List.exists_mem_of_ne_nil _ some_edge
  obtain ⟨known, enters⟩ := List.mem_filter.mp chosen
  obtain ⟨source, sourceMember, leaves⟩ := node_with_id _ (sound.connected edge known).1
  exact (link_ends parts _ _ (flow_of_edge parts sound edge known source node sourceMember member
    leaves (of_decide_eq_true enters).symm)).2

theorem left_by_flow (sound : subject.graph.Sound) (node : Node)
    (member : node ∈ subject.graph.nodes) (other : node.kind ≠ .endEvent) :
    some node.elementId ∈ (outlineOf parts).flows.map Flow.source := by
  have some_edge := mt (sound.left node member) other
  obtain ⟨edge, chosen⟩ := List.exists_mem_of_ne_nil _ some_edge
  obtain ⟨known, leaves⟩ := List.mem_filter.mp chosen
  obtain ⟨target, targetMember, enters⟩ := node_with_id _ (sound.connected edge known).2
  exact (link_ends parts _ _ (flow_of_edge parts sound edge known node target member targetMember
    (of_decide_eq_true leaves).symm enters)).1

theorem no_dead_ends (sound : subject.graph.Sound) : deadEnds (outlineOf parts) = [] := by
  rw [deadEnds, List.flatMap_eq_nil_iff]
  intro entry member
  obtain ⟨node, inside, rfl⟩ := (mem_entries _ _ entry).mp member
  refine List.append_eq_nil_iff.mpr ⟨?_, ?_⟩
  · rw [when_nothing]
    by_cases start : node.kind = .startEvent
    · simp [start]
    · have entered := entered_by_flow parts sound node inside start
      rw [List.contains_iff_mem.mpr entered]
      simp
  · rw [when_nothing]
    by_cases final : node.kind = .endEvent
    · simp [final]
    · have left := left_by_flow parts sound node inside final
      rw [List.contains_iff_mem.mpr left]
      simp

theorem leads_elements (sound : subject.graph.Sound) (start : Node)
    (member : start ∈ subject.graph.nodes) (id : String)
    (leads : Leads subject.graph.links start.id id) (node : Node)
    (inside : node ∈ subject.graph.nodes) (same : node.id = id) :
    Leads (outlineOf parts).links (some start.elementId) (some node.elementId) := by
  induction leads generalizing node with
  | refl =>
      rw [same_node sound node start inside member same]
  | tail _ link ih =>
      obtain ⟨edge, known, joined⟩ := List.mem_map.mp link
      obtain ⟨source, sourceMember, leaves⟩ := node_with_id _ (sound.connected edge known).1
      have before := ih source sourceMember (leaves.trans (congrArg Prod.fst joined))
      exact before.tail (flow_of_edge parts sound edge known source node sourceMember inside leaves
        (same.trans (congrArg Prod.snd joined).symm))

theorem all_reachable (sound : subject.graph.Sound) : unreachable (outlineOf parts) = [] := by
  obtain ⟨start, only⟩ := sound.start
  have member : start ∈ subject.graph.nodes :=
    (List.mem_filter.mp (only ▸ List.mem_cons_self : start ∈ subject.graph.starts)).1
  have starts : (outlineOf parts).ofKind .startEvent = [start.elementId] := by
    rw [Graph.starts] at only
    rw [outlineOf, kind_entries, only]
    rfl
  rw [unreachable, starts, List.flatMap_eq_nil_iff]
  intro entry inside
  obtain ⟨node, known, rfl⟩ := (mem_entries _ _ entry).mp inside
  have leads := sound.reached start (by rw [only]; exact List.mem_cons_self) node.id
    (List.mem_map_of_mem known)
  have reached : some (nodeEntry parts.flows node).1 ∈
      Reach.reachable (outlineOf parts).links (some start.elementId) :=
    (Reach.mem_reachable _ _ _).mpr (leads_elements parts sound start member
      node.id leads node known rfl)
  rw [when_nothing, List.contains_iff_mem.mpr reached]
  rfl

def flowIds (token : String) (graph : Graph) : List String :=
  (List.range graph.edges.length).map (Document.flowId token)

theorem flows_distinct (token : String) (graph : Graph) : (flowIds token graph).Nodup :=
  List.nodup_range.map fun first second => flow_id_injective token first second

theorem flows_ids : parts.flows.map Document.Flow.id = flowIds subject.token subject.graph := by
  have ids := congrArg (List.map Prod.snd) parts.flows_edges
  rw [List.map_map, List.map_map] at ids
  have numbers := congrArg (List.map (Document.flowId subject.token))
    (List.zipIdx_map_snd 0 subject.graph.edges)
  rw [List.map_map, ← List.range_eq_range'] at numbers
  exact ids.trans numbers

theorem count_once {Value : Type} [DecidableEq Value] (values : List Value) (value : Value)
    (distinct : values.Nodup) (member : value ∈ values) :
    (values.map some).count (some value) = 1 :=
  List.count_eq_one_of_mem (distinct.map fun _ _ => Option.some.inj) (List.mem_map_of_mem member)

def planeOf (depth : Option Nat) : Element :=
  Document.readBack depth (.element (Document.diagram "BPMNPlane")
    [Document.plain "id" ("BPMNPlane_" ++ subject.token),
      Document.plain "bpmnElement" subject.processId]
    (parts.shapes.map Document.shapeElement ++ parts.edges.map Document.edgeElement))

theorem drawn_text : ∀ child ∈ parts.shapes.map Document.shapeElement ++
    parts.edges.map Document.edgeElement, child.isText = false := by
  intro child member
  rcases List.mem_append.mp member with inShapes | inEdges
  · obtain ⟨shape, _, rfl⟩ := List.mem_map.mp inShapes
    rfl
  · obtain ⟨edge, _, rfl⟩ := List.mem_map.mp inEdges
    rfl

theorem plane_shapes (depth : Option Nat) :
    childrenNamed (diagramName "BPMNShape") (planeOf parts depth) =
      parts.shapes.map fun shape =>
        Document.readBack (depth.map (· + 1)) (Document.shapeElement shape) := by
  rw [planeOf, children_read depth _ _ _ _ (drawn_text parts), List.filter_append,
    filter_one_name parts.shapes _ (Document.diagram "BPMNShape") fun _ => rfl,
    filter_one_name parts.edges _ (Document.diagram "BPMNEdge") fun _ => rfl,
    if_pos (by decide), if_neg (by decide), List.append_nil, List.map_map]
  rfl

theorem plane_edges (depth : Option Nat) :
    childrenNamed (diagramName "BPMNEdge") (planeOf parts depth) =
      parts.edges.map fun edge =>
        Document.readBack (depth.map (· + 1)) (Document.edgeElement edge) := by
  rw [planeOf, children_read depth _ _ _ _ (drawn_text parts), List.filter_append,
    filter_one_name parts.shapes _ (Document.diagram "BPMNShape") fun _ => rfl,
    filter_one_name parts.edges _ (Document.diagram "BPMNEdge") fun _ => rfl,
    if_neg (by decide), if_pos (by decide), List.nil_append, List.map_map]
  rfl

theorem shape_silent (depth : Option Nat) (shape : Node × Box Float)
    (member : shape ∈ parts.shapes) :
    shapeIssues (outlineOf parts) (Document.readBack depth (Document.shapeElement shape)) = [] := by
  have known := has_node parts shape.1 (parts.shape_node shape member)
  have reference : attribute? "bpmnElement"
      (Document.readBack depth (Document.shapeElement shape)) = some shape.1.elementId := by
    rw [Document.shapeElement]
    split <;> rfl
  have bounds : (childrenNamed (boxName "Bounds")
      (Document.readBack depth (Document.shapeElement shape))).isEmpty = false := by
    rw [Document.shapeElement, children_read _ _ _ _ _ (by
      simp [Document.boundsElement, Document.labelElement, Xml.Node.isText])]
    rfl
  rw [shapeIssues, reference, known, bounds]
  rfl

theorem edge_children_text (flow : Document.Flow) (path : Document.Path) :
    ∀ child ∈ path.points.map Document.pointElement ++
      (if flow.edge.label?.isSome then
        [Document.labelElement (Document.flowLabel
          (Document.labelAnchor path.first path.second path.others))]
      else []), child.isText = false := by
  intro child member
  rcases List.mem_append.mp member with inPoints | inLabels
  · obtain ⟨position, _, rfl⟩ := List.mem_map.mp inPoints
    rfl
  · split at inLabels
    · rw [List.mem_singleton.mp inLabels]
      rfl
    · cases inLabels

theorem edge_silent (depth : Option Nat) (edge : Document.Flow × Document.Path)
    (member : edge ∈ parts.edges) :
    edgeIssues (outlineOf parts) (Document.readBack depth (Document.edgeElement edge)) = [] := by
  have known := has_flow parts edge.1 (parts.edge_flow edge member)
  have reference : attribute? "bpmnElement"
      (Document.readBack depth (Document.edgeElement edge)) = some edge.1.id := rfl
  have enough : ¬ (childrenNamed (pointName "waypoint")
      (Document.readBack depth (Document.edgeElement edge))).length < 2 := by
    rw [Document.edgeElement, children_read _ _ _ _ _ (edge_children_text _ _),
      List.filter_append, filter_one_name _ _ (Document.point "waypoint") fun _ => rfl,
      if_pos (by decide)]
    simp [Document.Path.points]
  rw [edgeIssues, reference, known, decide_eq_false enough]
  rfl

theorem shapes_counted (sound : subject.graph.Sound) (depth : Option Nat) :
    shapeCounts (outlineOf parts) (parts.shapes.map fun shape =>
      Document.readBack depth (Document.shapeElement shape)) = [] := by
  have references : (parts.shapes.map fun shape =>
      Document.readBack depth (Document.shapeElement shape)).map (attribute? "bpmnElement") =
        (subject.graph.nodes.map Node.elementId).map some := by
    rw [← parts.shapes_nodes, List.map_map, List.map_map, List.map_map]
    apply List.map_congr_left
    intro shape _
    rw [Function.comp_apply, Document.shapeElement]
    split <;> rfl
  rw [shapeCounts, List.flatMap_eq_nil_iff, references]
  intro entry member
  obtain ⟨node, known, rfl⟩ := (mem_entries _ _ entry).mp member
  have once := count_once _ node.elementId sound.elementsDistinct (List.mem_map_of_mem known)
  rw [when_nothing, decide_eq_false_iff_not, Classical.not_not]
  exact once

theorem edges_counted (depth : Option Nat) :
    edgeCounts (outlineOf parts) (parts.edges.map fun edge =>
      Document.readBack depth (Document.edgeElement edge)) = [] := by
  have references : (parts.edges.map fun edge =>
      Document.readBack depth (Document.edgeElement edge)).map (attribute? "bpmnElement") =
        (parts.flows.map Document.Flow.id).map some := by
    rw [← parts.edges_flows, List.map_map, List.map_map, List.map_map]
    rfl
  rw [edgeCounts, List.flatMap_eq_nil_iff, references]
  intro id member
  have listed : id ∈ (outlineOf parts).flows.map Flow.id := by
    simpa [sortedFlowIds] using member
  rw [outlineOf, List.map_map] at listed
  obtain ⟨flow, known, rfl⟩ := List.mem_map.mp listed
  have distinct : (parts.flows.map Document.Flow.id).Nodup := by
    rw [flows_ids]
    exact flows_distinct subject.token subject.graph
  have once := count_once _ flow.id distinct (List.mem_map_of_mem known)
  rw [when_nothing, decide_eq_false_iff_not, Classical.not_not]
  exact once

theorem diagram_silent (sound : subject.graph.Sound) (depth below : Option Nat) :
    diagramIssues
      (Document.readBack depth (Document.processElement options subject parts.flows))
      (outlineOf parts)
      (Document.readBack below (Document.diagramElement subject parts.shapes parts.edges)) = [] := by
  have plane : childrenNamed (diagramName "BPMNPlane")
      (Document.readBack below (Document.diagramElement subject parts.shapes parts.edges)) =
        [planeOf parts (below.map (· + 1))] := by
    rw [Document.diagramElement, children_read _ _ _ _ _ (by simp [Xml.Node.isText])]
    rfl
  have same : attribute? "bpmnElement" (planeOf parts (below.map (· + 1))) =
      attribute? "id"
        (Document.readBack depth (Document.processElement options subject parts.flows)) := rfl
  rw [diagramIssues, plane]
  simp only
  rw [planeIssues, plane_shapes, plane_edges, shapes_counted parts sound, edges_counted, same]
  simp only [List.append_nil, List.append_eq_nil_iff, List.flatMap_eq_nil_iff, when_nothing]
  refine ⟨⟨by simp, ?_⟩, ?_⟩
  · intro element member
    obtain ⟨shape, inside, rfl⟩ := List.mem_map.mp member
    exact shape_silent parts _ shape inside
  · intro element member
    obtain ⟨edge, inside, rfl⟩ := List.mem_map.mp member
    exact edge_silent parts _ edge inside

theorem check_sound (sound : subject.graph.Sound) (ended : subject.graph.ends ≠ []) :
    check parts.restored =
      ⟨duplicateIds parts.restored, some (metricsOf (outlineOf parts))⟩ := by
  have solid : ∀ child ∈ parts.children, child.isText = false := by
    simp [Parts.children, Document.processElement, Document.diagramElement, Xml.Node.isText]
  have process : childrenNamed (modelName "process") parts.restored =
      [Document.readBack (some 1) (Document.processElement options subject parts.flows)] :=
    children_read (some 0) _ (Document.model "definitions") parts.attributes parts.children solid
  have diagram : childrenNamed (diagramName "BPMNDiagram") parts.restored =
      [Document.readBack (some 1)
        (Document.diagramElement subject parts.shapes parts.edges)] :=
    children_read (some 0) _ (Document.model "definitions") parts.attributes parts.children solid
  have name : parts.restored.name? = some (modelName "definitions") := rfl
  have outline : Outline.ofProcess (Document.readBack (some 1)
      (Document.processElement options subject parts.flows)) = outlineOf parts := by
    apply outline_read _ _ sound.elementsDistinct
    intro flow member
    obtain ⟨entry, _, found⟩ := parts.mem_flows flow member
    obtain ⟨_, _, _, _, rfl⟩ := Document.flow_of_ok _ _ _ _ found
    exact flow_id_solid _ _
  rw [check, name, process, diagram]
  simp only [ne_eq, not_true_eq_false, if_false, outline, processIssues, no_dangling_ends,
    no_dangling_references, events_counted parts sound ended, no_dead_ends parts sound,
    all_reachable parts sound, diagram_silent parts sound, List.append_nil]

def duplicateOf (ids : List String) (id : String) : Issue :=
  problem .references
    ("Duplicate id '" ++ id ++ "' (" ++ toString (ids.count id) ++ " occurrences)") (some id)

theorem mem_duplicates (root : Element) (issue : Issue) :
    issue ∈ duplicateIds root ↔
      ∃ id, 1 < (idsOf root).count id ∧ issue = duplicateOf (idsOf root) id := by
  rw [duplicateIds, List.mem_flatMap]
  constructor
  · rintro ⟨⟨id, count⟩, counted, found⟩
    have total := Table.mem_tally _ _ _ counted
    subst total
    by_cases often : 1 < (idsOf root).count id
    · simp only [when, often, decide_true, if_true] at found
      exact ⟨id, often, List.mem_singleton.mp found⟩
    · simp [when, often] at found
  · rintro ⟨id, often, rfl⟩
    have present : id ∈ idsOf root := List.count_pos_iff.mp (by omega)
    refine ⟨(id, (idsOf root).count id), Table.tally_has _ id present, ?_⟩
    simp only [when, often, decide_true, if_true]
    exact List.mem_cons_self

theorem no_duplicates (root : Element) : duplicateIds root = [] ↔ (idsOf root).Nodup := by
  rw [List.nodup_iff_count_le_one, List.eq_nil_iff_forall_not_mem]
  constructor
  · intro none id
    by_contra often
    exact none _ ((mem_duplicates root _).mpr ⟨id, Nat.lt_of_not_le often, rfl⟩)
  · intro once issue member
    obtain ⟨id, often, _⟩ := (mem_duplicates root issue).mp member
    exact Nat.not_lt.mpr (once id) often

/-- Of a graph without defects that ends somewhere, with any diagram and any options, the document shows
the ids that occur more than once, and no other issue. -/
theorem issues_are_duplicate_ids (options : Document.Options) (subject : Document.Subject)
    (text : String) (accepted : subject.graph.defects = []) (ended : subject.graph.ends ≠ [])
    (written : Document.write options subject = .ok text) :
    ∃ root, Xml.read text = some root ∧ ∀ issue, issue ∈ (validate text).issues ↔
      ∃ id, 1 < (idsOf root).count id ∧ issue = problem .references
        ("Duplicate id '" ++ id ++ "' (" ++ toString ((idsOf root).count id) ++ " occurrences)")
        (some id) := by
  obtain ⟨parts, read⟩ := Document.read_written text written
  have sound := (Graph.sound_iff subject.graph).mpr accepted
  refine ⟨parts.restored, read, ?_⟩
  intro issue
  rw [validate, read]
  simp only [check_sound parts sound ended]
  exact mem_duplicates parts.restored issue

/-- A task that is repeated, and whose id is the one of a flow. -/
def loopSubject : Document.Subject where
  processId := "Process_0"
  token := "0"
  name := "loop"
  documentation := ""
  graph := {
    nodes := [
      { id := "a", elementId := "A", kind := .startEvent },
      { id := "b", elementId := "Flow_0_1", kind := .task },
      { id := "c", elementId := "C", kind := .inclusiveGateway },
      { id := "d", elementId := "D", kind := .endEvent }]
    edges := [
      { source := "a", target := "b" }, { source := "b", target := "c" },
      { source := "c", target := "b", condition := some "again" },
      { source := "c", target := "d" }, { source := "c", target := "d" }] }
  diagram := {
    strategy := .linear
    boxes := [("a", ⟨0, 0, 36, 36⟩), ("b", ⟨100, 0, 36, 36⟩), ("c", ⟨200, 0, 36, 36⟩),
      ("d", ⟨300, 0, 36, 36⟩)]
    routes := [(0, [⟨36, 18⟩, ⟨100, 18⟩]), (1, [⟨136, 18⟩, ⟨200, 18⟩]),
      (2, [⟨200, 18⟩, ⟨136, 18⟩]), (3, [⟨236, 18⟩, ⟨300, 18⟩]), (4, [⟨236, 18⟩, ⟨300, 18⟩])] }

theorem loop_issues_are_duplicate_ids :
    loopSubject.graph.defects = [] ∧ loopSubject.graph.ends ≠ [] ∧
      ∃ text root, Document.write {} loopSubject = .ok text ∧ Xml.read text = some root ∧
        ∀ issue, issue ∈ (validate text).issues ↔ ∃ id, 1 < (idsOf root).count id ∧
          issue = problem .references ("Duplicate id '" ++ id ++ "' (" ++
            toString ((idsOf root).count id) ++ " occurrences)") (some id) := by
  have accepted : loopSubject.graph.defects = [] := by decide +kernel
  have ended : loopSubject.graph.ends ≠ [] := by decide
  have written : ∃ text, Document.write {} loopSubject = .ok text := ⟨_, rfl⟩
  obtain ⟨text, written⟩ := written
  obtain ⟨root, found⟩ := issues_are_duplicate_ids {} loopSubject text accepted ended written
  exact ⟨accepted, ended, text, root, written, found⟩

end ProcessDiagram.Validation
