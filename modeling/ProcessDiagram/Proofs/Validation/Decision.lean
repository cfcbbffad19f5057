import ProcessDiagram.Proofs.Validation.Elements
import ProcessDiagram.Proofs.Validation.Verdict

set_option autoImplicit false

namespace ProcessDiagram.Validation

open Reach (Leads Linked)

section Process

variable (process : Element)
  (identified : ∀ element ∈ flowNodesOf process ++ sequenceFlowsOf process,
    (identifier? element).isSome)
  (distinct : (process.children.filterMap identifier?).Nodup)

theorem each_flow (property : Flow → Prop) :
    (∀ flow ∈ (Outline.ofProcess process).flows, property flow) ↔
      ∀ flow ∈ sequenceFlowsOf process,
        property ⟨identifier? flow, attribute? "sourceRef" flow, attribute? "targetRef" flow⟩ :=
  List.forall_mem_map

theorem flow_field (field : Flow → Option String) (key : String)
    (read : ∀ flow, field ⟨identifier? flow, attribute? "sourceRef" flow,
      attribute? "targetRef" flow⟩ = attribute? key flow) (reference : Option String) :
    reference ∈ (Outline.ofProcess process).flows.map field ↔
      ∃ flow ∈ sequenceFlowsOf process, attribute? key flow = reference := by
  have fields : (Outline.ofProcess process).flows.map field =
      (sequenceFlowsOf process).map (attribute? key) := by
    rw [Outline.ofProcess, flows, List.map_map]
    exact List.map_congr_left fun flow _ => read flow
  rw [fields, List.mem_map]

include identified

theorem ends_pass : danglingEnds (Outline.ofProcess process) = [] ↔
    ∀ flow ∈ sequenceFlowsOf process,
      RefersTo (flowNodesOf process) (attribute? "sourceRef" flow) ∧
        RefersTo (flowNodesOf process) (attribute? "targetRef" flow) := by
  rw [ends_silent, each_flow]
  simp only [has_node_iff process identified]

include distinct

theorem references_pass : danglingReferences (Outline.ofProcess process) = [] ↔
    ∀ node ∈ flowNodesOf process,
      (∀ child ∈ childrenNamed (modelName "incoming") node,
        RefersTo (sequenceFlowsOf process) child.text?) ∧
      ∀ child ∈ childrenNamed (modelName "outgoing") node,
        RefersTo (sequenceFlowsOf process) child.text? := by
  rw [references_silent, outline_nodes process identified distinct, each_entry, each_node]
  simp only [flowNodeOf, referencesOf, List.forall_mem_map, has_flow_iff process identified]

omit identified distinct in
theorem kind_keys (whole : (Outline.ofProcess process).nodes = entriesOf process) (kind : NodeKind) :
    (Outline.ofProcess process).ofKind kind =
      (childrenNamed (modelName kind.name) process).map fun element =>
        (identifier? element).getD "" := by
  have own : ∀ kind, ∀ entry ∈ flowNodesOfKind process kind, entry.2.kind = kind := by
    intro kind entry member
    obtain ⟨element, _, rfl⟩ := List.mem_map.mp member
    rfl
  rw [Outline.ofKind, whole, entriesOf, filter_kind _ own, flowNodesOfKind, List.map_map]
  rfl

theorem kind_ids (kind : NodeKind) : (Outline.ofProcess process).ofKind kind =
    (childrenNamed (modelName kind.name) process).map fun element =>
      (identifier? element).getD "" :=
  kind_keys process (outline_nodes process identified distinct) kind

theorem events_pass : eventCounts (Outline.ofProcess process) = [] ↔
    (∃ start, childrenNamed (modelName "startEvent") process = [start]) ∧
      childrenNamed (modelName "endEvent") process ≠ [] := by
  rw [events_silent, kind_ids process identified distinct, kind_ids process identified distinct,
    List.length_map, List.length_eq_one_iff, Ne, List.map_eq_nil_iff]
  rfl

theorem dead_ends_pass : deadEnds (Outline.ofProcess process) = [] ↔
    ∀ node ∈ flowNodesOf process,
      (node.name? ≠ some (modelName "startEvent") →
        ∃ flow ∈ sequenceFlowsOf process, attribute? "targetRef" flow = identifier? node) ∧
      (node.name? ≠ some (modelName "endEvent") →
        ∃ flow ∈ sequenceFlowsOf process, attribute? "sourceRef" flow = identifier? node) := by
  rw [dead_ends_silent, outline_nodes process identified distinct, each_entry, each_node]
  refine forall_congr' fun kind => forall₂_congr fun node member => ?_
  have inside : node ∈ flowNodesOf process := (mem_flow_nodes process node).mpr ⟨kind, member⟩
  have starts : node.name? = some (modelName "startEvent") ↔ kind = .startEvent :=
    kind_named process kind .startEvent node member
  have ends : node.name? = some (modelName "endEvent") ↔ kind = .endEvent :=
    kind_named process kind .endEvent node member
  rw [flow_field process Flow.target "targetRef" fun _ => rfl,
    flow_field process Flow.source "sourceRef" fun _ => rfl,
    node_identified process identified node inside]
  simp only [ne_eq, starts, ends]
  rfl

theorem joined_iff : (danglingEnds (Outline.ofProcess process) = [] ∧
    danglingReferences (Outline.ofProcess process) = [] ∧
    eventCounts (Outline.ofProcess process) = [] ∧ deadEnds (Outline.ofProcess process) = []) ↔
      WellJoined process := by
  rw [ends_pass process identified, references_pass process identified distinct,
    events_pass process identified distinct, dead_ends_pass process identified distinct]
  constructor
  · rintro ⟨ends, references, ⟨start, ended⟩, dead⟩
    exact ⟨fun flow member => (ends flow member).1, fun flow member => (ends flow member).2,
      fun node member => (references node member).1, fun node member => (references node member).2,
      start, ended, fun node member => (dead node member).1, fun node member => (dead node member).2⟩
  · intro joined
    exact ⟨fun flow member => ⟨joined.sources flow member, joined.targets flow member⟩,
      fun node member => ⟨joined.incoming node member, joined.outgoing node member⟩,
      ⟨joined.start, joined.ends⟩,
      fun node member => ⟨joined.entered node member, joined.left node member⟩⟩

omit identified distinct in
theorem drawn_count (elements : List Element) (element : Element) :
    (elements.map (attribute? "bpmnElement")).count (identifier? element) =
      elements.countP (drawing element) := by
  rw [List.count_eq_countP, List.countP_map]
  refine List.countP_congr fun shape _ => ?_
  simp [drawing]

theorem drawn_iff (plane : Element) :
    planeIssues process (Outline.ofProcess process) plane = [] ↔ WellDrawn process plane := by
  have shapes : ∀ shapes, shapeCounts (Outline.ofProcess process) shapes = [] ↔
      ∀ node ∈ flowNodesOf process, shapes.countP (drawing node) = 1 := by
    intro shapes
    rw [shape_counts_pass, outline_nodes process identified distinct, each_entry, each_node]
    refine forall_congr' fun kind => forall₂_congr fun node member => ?_
    have inside : node ∈ flowNodesOf process := (mem_flow_nodes process node).mpr ⟨kind, member⟩
    rw [node_identified process identified node inside, drawn_count]
  have edges : ∀ edges, edgeCounts (Outline.ofProcess process) edges = [] ↔
      ∀ flow ∈ sequenceFlowsOf process, edges.countP (drawing flow) = 1 := by
    intro edges
    rw [edge_counts_pass, each_flow]
    simp only [drawn_count]
  simp only [plane_silent, shapes, edges, shape_passes, edge_passes, has_node_iff process identified,
    has_flow_iff process identified]
  constructor
  · rintro ⟨stands, shapes, oneShape, edges, oneEdge⟩
    exact ⟨stands, shapes, edges, oneShape, oneEdge⟩
  · intro drawn
    exact ⟨drawn.stands, drawn.shapes, drawn.oneShape, drawn.edges, drawn.oneEdge⟩

omit identified in
theorem reached_iff (joined : WellJoined process) (start : Element) (id : String)
    (only : childrenNamed (modelName "startEvent") process = [start])
    (named : identifier? start = some id) (node : Element) (member : node ∈ flowNodesOf process) :
    Leads (Outline.ofProcess process).links (some id) (identifier? node) ↔ Reached process node := by
  have linked : ∀ first second, Linked (Outline.ofProcess process).links first second ↔
      ∃ flow ∈ sequenceFlowsOf process,
        attribute? "sourceRef" flow = first ∧ attribute? "targetRef" flow = second := by
    intro first second
    rw [Linked, Outline.links, Outline.ofProcess, flows, List.map_map, List.mem_map]
    simp only [Function.comp_apply, Prod.mk.injEq]
    rfl
  obtain ⟨begins, startNode⟩ := start_node process start only
  constructor
  · intro leads
    generalize place : identifier? node = reference at leads
    induction leads generalizing node with
    | refl =>
        have same := same_element process.children distinct start node
          (flow_node_child process start startNode) (flow_node_child process node member) id named
          place
        exact same ▸ .start start begins
    | tail _ link ih =>
        obtain ⟨flow, inside, leaves, enters⟩ := (linked _ _).mp link
        obtain ⟨other, refers, source, known, place'⟩ := joined.sources flow inside
        have before := ih source known (place'.trans (refers.symm.trans leaves))
        exact .step source flow node before inside (refers.trans place'.symm)
          (enters.trans place.symm) member
  · intro reached
    induction reached with
    | start node inside =>
        have same : node = start := List.mem_singleton.mp (only ▸ inside)
        rw [same, named]
    | step source flow target reached inside leaves enters _ ih =>
        exact (ih (reached_inside process source reached)).tail ((linked _ _).mpr ⟨flow, inside, leaves, enters⟩)

def unreachedWarning (node : Element) : Issue :=
  ⟨.warning, .connectivity, "Flow node is not reachable from the start event", identifier? node,
    none⟩

omit identified distinct in
theorem when_each (nodes : List Element) (chosen : Element → Bool) (issue : Element → Issue) :
    (nodes.flatMap fun node => when (chosen node) (issue node)) =
      (nodes.filter chosen).map issue := by
  induction nodes with
  | nil => rfl
  | cons node rest ih =>
      rw [List.flatMap_cons, ih, List.filter_cons]
      cases chosen node with
      | false => rfl
      | true => rfl

open Classical in
theorem unreachable_listed (joined : WellJoined process) :
    unreachable (Outline.ofProcess process) =
      ((flowNodesOf process).filter fun node => ¬ Reached process node).map unreachedWarning := by
  obtain ⟨start, only⟩ := joined.start
  obtain ⟨_, startNode⟩ := start_node process start only
  obtain ⟨id, named⟩ := Option.isSome_iff_exists.mp
    (identified start (List.mem_append_left _ startNode))
  have starts : (Outline.ofProcess process).ofKind .startEvent = [id] := by
    rw [kind_ids process identified distinct]
    change (childrenNamed (modelName "startEvent") process).map _ = _
    rw [only, List.map_singleton, named, Option.getD_some]
  have byKey : ∀ rule : String → List Issue,
      ((Outline.ofProcess process).nodes.flatMap fun entry => rule entry.1) =
        (flowNodesOf process).flatMap fun node => rule ((identifier? node).getD "") := by
    intro rule
    have keys := entry_keys process
    rw [← outline_nodes process identified distinct, Table.keys] at keys
    rw [← List.flatMap_map, keys, List.flatMap_map]
  rw [unreachable, starts]
  simp only
  rw [byKey fun other => when (!(Reach.reachable (Outline.ofProcess process).links (some id)).contains
    (some other)) ⟨.warning, .connectivity, "Flow node is not reachable from the start event",
      some other, none⟩, ← when_each]
  refine List.flatMap_congr fun node member => ?_
  have missed : (Reach.reachable (Outline.ofProcess process).links (some id)).contains
      (identifier? node) = decide (Reached process node) := by
    rw [Bool.eq_iff_iff, List.contains_iff_mem, Reach.mem_reachable, decide_eq_true_iff]
    exact reached_iff process distinct joined start id only named node member
  rw [node_identified process identified node member, missed, unreachedWarning, decide_not]

end Process

theorem faults_silent (root process diagram : Element)
    (plain : ∀ target data, .instruction target data ∉ within root)
    (inside : process ∈ root.children)
    (identified : ∀ element ∈ flowNodesOf process ++ sequenceFlowsOf process,
      (identifier? element).isSome) :
    faults root process diagram (Outline.ofProcess process) = [] ↔
      ((within root).filterMap identifier?).Nodup ∧ WellJoined process ∧
        ∃ plane others, childrenNamed (diagramName "BPMNPlane") diagram = plane :: others ∧
          WellDrawn process plane := by
  simp only [faults, List.append_eq_nil_iff, and_assoc, no_duplicates, ids_within root plain]
  refine and_congr_right fun whole => ?_
  have distinct := children_distinct root process inside whole
  simp only [diagram_silent_iff, drawn_iff process identified distinct,
    ← joined_iff process identified distinct, and_assoc]

section Document

variable (root : Element) (plain : ∀ target data, .instruction target data ∉ within root)
  (identified : ∀ process, childrenNamed (modelName "process") root = [process] →
    ∀ element ∈ flowNodesOf process ++ sequenceFlowsOf process, (identifier? element).isSome)

theorem single_child (name : Xml.ExpandedName) (child : Element)
    (only : childrenNamed name root = [child]) : child ∈ root.children := by
  have member : child ∈ childrenNamed name root := only ▸ List.mem_cons_self
  exact List.mem_of_mem_filter member

include plain identified

theorem check_decides : (check root).isValid ↔ Conforms root := by
  rw [check_valid_iff]
  constructor
  · rintro ⟨named, process, diagram, processes, diagrams, silent⟩
    obtain ⟨distinct, joined, plane, others, planes, drawn⟩ := (faults_silent root process diagram
      plain (single_child root _ process processes) (identified process processes)).mp silent
    exact ⟨named, distinct, process, diagram, plane, others, processes, diagrams, planes, joined,
      drawn⟩
  · rintro ⟨named, distinct, process, diagram, plane, others, processes, diagrams, planes, joined,
      drawn⟩
    exact ⟨named, process, diagram, processes, diagrams, (faults_silent root process diagram plain
      (single_child root _ process processes) (identified process processes)).mpr
        ⟨distinct, joined, plane, others, planes, drawn⟩⟩

open Classical in
/-- The check decides whether a document conforms, and warns of a valid one of each flow node that is out
of reach, once. -/
theorem validate_decides (text : String) (read : Xml.read text = some root) :
    ((validate text).isValid ↔ Conforms root) ∧
      ((validate text).isValid → ∃ process, childrenNamed (modelName "process") root = [process] ∧
        (validate text).warnings =
          ((flowNodesOf process).filter fun node => ¬ Reached process node).map
            unreachedWarning) := by
  rw [validate, read]
  have decides := check_decides root plain identified
  refine ⟨decides, fun valid => ?_⟩
  obtain ⟨named, distinct, process, diagram, _, _, processes, diagrams, _, joined, _⟩ :=
    decides.mp valid
  refine ⟨process, processes, ?_⟩
  rw [check_warnings root process diagram named processes diagrams]
  exact unreachable_listed process (identified process processes)
    (children_distinct root process (single_child root _ process processes) distinct) joined

end Document

/-- A process that ends at once, and beside it a task that only follows itself. -/
def islandSubject : Document.Subject where
  processId := "Process_0"
  token := "0"
  name := "island"
  documentation := ""
  graph := {
    nodes := [
      { id := "a", elementId := "A", kind := .startEvent },
      { id := "b", elementId := "B", kind := .endEvent },
      { id := "c", elementId := "C", kind := .task }]
    edges := [{ source := "a", target := "b" }, { source := "c", target := "c" }] }
  diagram := {
    strategy := .linear
    boxes := [("a", ⟨0, 0, 36, 36⟩), ("b", ⟨100, 0, 36, 36⟩), ("c", ⟨200, 0, 100, 80⟩)]
    routes := [(0, [⟨36, 18⟩, ⟨100, 18⟩]), (1, [⟨300, 40⟩, ⟨200, 40⟩])] }

def islandParts : Document.Parts {} islandSubject where
  flows := [⟨"Flow_0_1", ⟨"a", "b", none⟩, "A", "B"⟩, ⟨"Flow_0_2", ⟨"c", "c", none⟩, "C", "C"⟩]
  shapes := [
    ({ id := "a", elementId := "A", kind := .startEvent }, ⟨0, 0, 36, 36⟩),
    ({ id := "b", elementId := "B", kind := .endEvent }, ⟨100, 0, 36, 36⟩),
    ({ id := "c", elementId := "C", kind := .task }, ⟨200, 0, 100, 80⟩)]
  edges := [
    (⟨"Flow_0_1", ⟨"a", "b", none⟩, "A", "B"⟩, ⟨⟨36, 18⟩, ⟨100, 18⟩, []⟩),
    (⟨"Flow_0_2", ⟨"c", "c", none⟩, "C", "C"⟩, ⟨⟨300, 40⟩, ⟨200, 40⟩, []⟩)]
  flowsFound := .cons rfl (.cons rfl .nil)
  shapesFound := .cons rfl (.cons rfl (.cons rfl .nil))
  edgesFound := .cons rfl (.cons rfl .nil)
  checked := (Each.all_checked _ _).mp rfl

def islandProcess : Element :=
  Document.readBack (some 1) (Document.processElement {} islandSubject islandParts.flows)

def islandDiagram : Element :=
  Document.readBack (some 1)
    (Document.diagramElement islandSubject islandParts.shapes islandParts.edges)

theorem island_processes :
    childrenNamed (modelName "process") islandParts.restored = [islandProcess] := rfl

theorem island_diagrams :
    childrenNamed (diagramName "BPMNDiagram") islandParts.restored = [islandDiagram] := rfl

theorem island_silent :
    faults islandParts.restored islandProcess islandDiagram (Outline.ofProcess islandProcess) =
      [] := by
  simp only [faults, List.append_eq_nil_iff, diagram_silent_iff, plane_silent, edge_counts_pass]
  exact ⟨⟨⟨⟨⟨by decide +kernel, by decide +kernel⟩, by decide +kernel⟩, by decide +kernel⟩,
    by decide +kernel⟩, _, _, rfl, rfl, by decide +kernel, by decide +kernel, by decide +kernel,
    by decide +kernel⟩

theorem island_valid : (validate (Xml.printDocument islandParts.root)).isValid := by
  rw [validate, islandParts.read_root]
  exact (check_valid_iff _).mpr
    ⟨rfl, islandProcess, islandDiagram, island_processes, island_diagrams, island_silent⟩

def isInstruction : Element → Bool
  | .instruction _ _ => true
  | _ => false

open Classical in
theorem island_decided :
    ∃ root process, Xml.read (Xml.printDocument islandParts.root) = some root ∧
      (∀ target data, .instruction target data ∉ within root) ∧
      (∀ element ∈ flowNodesOf process ++ sequenceFlowsOf process, (identifier? element).isSome) ∧
      childrenNamed (modelName "process") root = [process] ∧ Conforms root ∧
      ((flowNodesOf process).filter fun node => ¬ Reached process node).map identifier? =
        [some "C"] := by
  have plain : ∀ target data, .instruction target data ∉ within islandParts.restored := by
    have none : (within islandParts.restored).all (fun node => !isInstruction node) = true := by
      decide +kernel
    intro target data member
    exact absurd (List.all_eq_true.mp none _ member) (by simp [isInstruction])
  have identified : ∀ element ∈ flowNodesOf islandProcess ++ sequenceFlowsOf islandProcess,
      (identifier? element).isSome :=
    List.all_eq_true.mp (by decide +kernel)
  obtain ⟨decides, warned⟩ := validate_decides islandParts.restored plain
    (fun other only =>
      List.singleton_inj.mp (island_processes.symm.trans only) ▸ identified)
    (Xml.printDocument islandParts.root) islandParts.read_root
  obtain ⟨other, only, warnings⟩ := warned island_valid
  obtain rfl : islandProcess = other := List.singleton_inj.mp (island_processes.symm.trans only)
  refine ⟨_, islandProcess, islandParts.read_root, plain, identified, island_processes,
    decides.mp island_valid, ?_⟩
  have ids := congrArg (List.map Issue.elementId) warnings
  rw [List.map_map] at ids
  refine ids.symm.trans ?_
  rw [validate, islandParts.read_root]
  simp only [check_warnings _ islandProcess islandDiagram rfl island_processes island_diagrams]
  decide +kernel

end ProcessDiagram.Validation
