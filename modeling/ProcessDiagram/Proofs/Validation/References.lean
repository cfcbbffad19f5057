import ProcessDiagram.Proofs.Validation.Decision

set_option autoImplicit false

namespace ProcessDiagram.Validation

def mapChildren (change : Element → Element) : Element → Element
  | .element name attributes children => .element name attributes (children.map change)
  | node => node

def isFlowNode (element : Element) : Bool :=
  NodeKind.all.any fun kind => element.name? = some (modelName kind.name)

def refill (inside : Element → List Element) : Element → Element
  | .element name attributes children =>
      if isFlowNode (.element name attributes children) then
        .element name attributes (inside (.element name attributes children))
      else .element name attributes children
  | node => node

def refilledProcess (inside : Element → List Element) (child : Element) : Element :=
  if child.name? = some (modelName "process") then mapChildren (refill inside) child else child

def refilled (inside : Element → List Element) (root : Element) : Element :=
  mapChildren (refilledProcess inside) root

theorem name_mapped (change : Element → Element) (element : Element) :
    (mapChildren change element).name? = element.name? := by
  cases element <;> rfl

theorem attribute_mapped (change : Element → Element) (key : String) (element : Element) :
    attribute? key (mapChildren change element) = attribute? key element := by
  cases element <;> rfl

theorem children_mapped (change : Element → Element) (name : Xml.ExpandedName) (element : Element)
    (kept : ∀ child, (change child).name? = child.name?) :
    childrenNamed name (mapChildren change element) = (childrenNamed name element).map change := by
  cases element with
  | element other attributes children =>
      rw [mapChildren, childrenNamed, childrenNamed, Xml.Node.children, Xml.Node.children,
        List.filter_map]
      congr 2
      funext child
      simp [kept]
  | text value => rfl
  | comment value => rfl
  | instruction target data => rfl

theorem ids_all_mapped (change : Element → Element) (elements : List Element)
    (kept : ∀ element ∈ elements, idsOf (change element) = idsOf element) :
    idsOfAll (elements.map change) = idsOfAll elements := by
  induction elements with
  | nil => rfl
  | cons first rest ih =>
      rw [List.forall_mem_cons] at kept
      rw [List.map_cons, idsOfAll, idsOfAll, kept.1, ih kept.2]

theorem ids_mapped (change : Element → Element) (element : Element)
    (kept : ∀ child ∈ element.children, idsOf (change child) = idsOf child) :
    idsOf (mapChildren change element) = idsOf element := by
  cases element with
  | element name attributes children =>
      rw [mapChildren, idsOf, idsOf, ids_all_mapped change children kept]
  | text value => rfl
  | comment value => rfl
  | instruction target data => rfl

section Refilled

variable (inside : Element → List Element)

theorem name_refill (element : Element) : (refill inside element).name? = element.name? := by
  cases element with
  | element name attributes children =>
      by_cases chosen : isFlowNode (.element name attributes children)
      · rw [refill, if_pos chosen]
        rfl
      · rw [refill, if_neg chosen]
  | text value => rfl
  | comment value => rfl
  | instruction target data => rfl

theorem attribute_refill (key : String) (element : Element) :
    attribute? key (refill inside element) = attribute? key element := by
  cases element with
  | element name attributes children =>
      by_cases chosen : isFlowNode (.element name attributes children)
      · rw [refill, if_pos chosen]
        rfl
      · rw [refill, if_neg chosen]
  | text value => rfl
  | comment value => rfl
  | instruction target data => rfl

theorem name_refilled_process (child : Element) :
    (refilledProcess inside child).name? = child.name? := by
  rw [refilledProcess]
  by_cases process : child.name? = some (modelName "process")
  · rw [if_pos process, name_mapped]
  · rw [if_neg process]

theorem flow_node_iff (process element : Element) (member : element ∈ process.children) :
    isFlowNode element ↔ element ∈ flowNodesOf process := by
  rw [isFlowNode, List.any_eq_true, mem_flow_nodes]
  simp only [decide_eq_true_eq, childrenNamed, List.mem_filter]
  constructor
  · rintro ⟨kind, _, named⟩
    exact ⟨kind, member, named⟩
  · rintro ⟨kind, _, named⟩
    exact ⟨kind, mem_kinds kind, named⟩

theorem refill_node (process element : Element) (member : element ∈ flowNodesOf process) :
    (refill inside element).children = inside element := by
  have chosen := (flow_node_iff process element (flow_node_child process element member)).mpr member
  cases element with
  | element name attributes children =>
      rw [refill, if_pos chosen]
      rfl
  | text value => simp [isFlowNode, Xml.Node.name?] at chosen
  | comment value => simp [isFlowNode, Xml.Node.name?] at chosen
  | instruction target data => simp [isFlowNode, Xml.Node.name?] at chosen

theorem ids_refill (process element : Element) (member : element ∈ process.children)
    (kept : ∀ node ∈ flowNodesOf process, idsOfAll (inside node) = idsOfAll node.children) :
    idsOf (refill inside element) = idsOf element := by
  cases element with
  | element name attributes children =>
      by_cases chosen : isFlowNode (.element name attributes children)
      · have same := kept _ ((flow_node_iff process _ member).mp chosen)
        rw [refill, if_pos chosen, idsOf, idsOf, same]
        rfl
      · rw [refill, if_neg chosen]
  | text value => rfl
  | comment value => rfl
  | instruction target data => rfl

theorem ids_refilled (root process : Element)
    (only : childrenNamed (modelName "process") root = [process])
    (kept : ∀ node ∈ flowNodesOf process, idsOfAll (inside node) = idsOfAll node.children) :
    idsOf (refilled inside root) = idsOf root := by
  apply ids_mapped
  intro child member
  rw [refilledProcess]
  by_cases named : child.name? = some (modelName "process")
  · have known : child ∈ childrenNamed (modelName "process") root :=
      List.mem_filter.mpr ⟨member, decide_eq_true named⟩
    rw [only] at known
    rw [if_pos named, List.mem_singleton.mp known]
    exact ids_mapped _ process fun element inside => ids_refill _ process element inside kept
  · rw [if_neg named]

end Refilled

def FlowNode.bare (node : FlowNode) : FlowNode :=
  ⟨node.kind, [], []⟩

@[simp] theorem FlowNode.bare_kind (node : FlowNode) : node.bare.kind = node.kind := rfl

namespace Outline

def bare (outline : Outline) : Outline :=
  ⟨outline.nodes.map fun entry => (entry.1, entry.2.bare), outline.flows⟩

variable (outline : Outline)

theorem bare_has_node (reference : Option String) :
    outline.bare.hasNode reference = outline.hasNode reference := by
  cases reference with
  | none => rfl
  | some id => simp only [hasNode, bare, Table.get_mapped, Option.isSome_map]

theorem bare_of_kind (kind : NodeKind) : outline.bare.ofKind kind = outline.ofKind kind := by
  simp only [ofKind, bare, List.filter_map, List.map_map]
  rfl

end Outline

section Bare

variable (outline : Outline)

theorem bare_ends : danglingEnds outline.bare = danglingEnds outline := by
  simp only [danglingEnds, danglingEnd, Outline.bare_has_node]
  rfl

theorem bare_events : eventCounts outline.bare = eventCounts outline := by
  simp only [eventCounts, Outline.bare_of_kind]

theorem bare_dead_ends : deadEnds outline.bare = deadEnds outline := by
  simp only [deadEnds, Outline.bare, List.flatMap_map, FlowNode.bare_kind]
  rfl

theorem bare_unreachable : unreachable outline.bare = unreachable outline := by
  have links : outline.bare.links = outline.links := rfl
  simp only [unreachable, Outline.bare_of_kind, links]
  simp only [Outline.bare, List.flatMap_map]

theorem bare_diagram (process diagram : Element) :
    diagramIssues process outline.bare diagram = diagramIssues process outline diagram := by
  have counts : shapeCounts outline.bare = shapeCounts outline := by
    funext shapes
    simp only [shapeCounts, Outline.bare, List.flatMap_map]
  have shapes : shapeIssues outline.bare = shapeIssues outline := by
    funext shape
    simp only [shapeIssues, Outline.bare_has_node]
  have planes : planeIssues process outline.bare = planeIssues process outline := by
    funext plane
    rw [planeIssues, planeIssues, counts, shapes]
    rfl
  rw [diagramIssues, planes, diagramIssues]

theorem bare_metrics : metricsOf outline.bare = metricsOf outline := by
  simp only [metricsOf, Outline.bare, List.length_map, List.filter_map]
  rfl

end Bare

-- References apart, two outlines with the same nodes and flows are told the same.
theorem bare_report (root other process another diagram : Element) (first second : Outline)
    (ids : idsOf root = idsOf other) (id : attribute? "id" process = attribute? "id" another)
    (same : first.bare = second.bare) (named : danglingReferences first = [])
    (alike : danglingReferences second = []) :
    processIssues root process diagram first = processIssues other another diagram second ∧
      metricsOf first = metricsOf second := by
  have planes : ∀ outline, diagramIssues process outline diagram =
      diagramIssues another outline diagram := by
    intro outline
    simp only [diagramIssues, planeIssues, id]
  constructor
  · rw [processIssues, processIssues, duplicateIds, duplicateIds, ids, named, alike,
      ← bare_ends first, ← bare_events first, ← bare_dead_ends first, ← bare_unreachable first,
      ← bare_diagram first, same, bare_ends, bare_events, bare_dead_ends, bare_unreachable,
      bare_diagram, planes]
  · rw [← bare_metrics first, same, bare_metrics]

def Names (process : Element) (reference : Option String) : Prop :=
  ∃ flow ∈ sequenceFlowsOf process, identifier? flow = reference

def isReference (element : Element) : Bool :=
  element.name? = some (modelName "incoming") || element.name? = some (modelName "outgoing")

theorem names_iff (process : Element) (reference : Option String) :
    (Outline.ofProcess process).hasFlow reference = true ↔ Names process reference := by
  rw [Outline.hasFlow, List.contains_iff_mem]
  exact flow_field process Flow.id "id" (fun _ => rfl) reference

section Process

variable (inside : Element → List Element) (process : Element)

theorem flows_refilled :
    (Outline.ofProcess (mapChildren (refill inside) process)).flows =
      (Outline.ofProcess process).flows := by
  rw [Outline.ofProcess, Outline.ofProcess, flows, flows,
    children_mapped _ _ _ (name_refill inside), List.map_map]
  apply List.map_congr_left
  intro flow _
  simp only [Function.comp_apply, attribute_refill]

theorem kind_refilled (kind : NodeKind) :
    flowNodesOfKind (mapChildren (refill inside) process) kind =
      (childrenNamed (modelName kind.name) process).map fun element =>
        ((identifier? element).getD "", flowNodeOf kind (refill inside element)) := by
  rw [flowNodesOfKind, children_mapped _ _ _ (name_refill inside), List.map_map]
  apply List.map_congr_left
  intro element _
  simp only [Function.comp_apply, attribute_refill, identifier?]

theorem bare_refilled :
    (Outline.ofProcess (mapChildren (refill inside) process)).bare =
      (Outline.ofProcess process).bare := by
  have bared : ∀ kind, (flowNodesOfKind (mapChildren (refill inside) process) kind).map
      (fun entry => (entry.1, entry.2.bare)) =
        (flowNodesOfKind process kind).map fun entry => (entry.1, entry.2.bare) := by
    intro kind
    rw [kind_refilled, flowNodesOfKind, List.map_map, List.map_map]
    rfl
  simp only [Outline.bare, flows_refilled, nodes_table, Table.of_list_mapped, entriesOf,
    List.map_flatMap, bared]

theorem references_refilled
    (named : ∀ node ∈ flowNodesOf process, ∀ child ∈ inside node, isReference child →
      Names process child.text?) :
    danglingReferences (Outline.ofProcess (mapChildren (refill inside) process)) = [] := by
  have resolved : ∀ reference, Names process reference →
      (Outline.ofProcess (mapChildren (refill inside) process)).hasFlow reference = true := by
    intro reference known
    rw [Outline.hasFlow, flows_refilled]
    exact (names_iff process reference).mpr known
  rw [references_silent, nodes_table]
  apply Table.values_of_list fun node : FlowNode =>
    (∀ reference ∈ node.incoming, Outline.hasFlow _ reference = true) ∧
      ∀ reference ∈ node.outgoing, Outline.hasFlow _ reference = true
  intro entry member
  obtain ⟨kind, _, listed⟩ := List.mem_flatMap.mp member
  rw [kind_refilled] at listed
  obtain ⟨element, chosen, rfl⟩ := List.mem_map.mp listed
  have node : element ∈ flowNodesOf process := (mem_flow_nodes process element).mpr ⟨kind, chosen⟩
  have each : ∀ name, (name = "incoming" ∨ name = "outgoing") →
      ∀ reference ∈ referencesOf name (refill inside element), Names process reference := by
    intro name either reference referred
    obtain ⟨child, kept, rfl⟩ := List.mem_map.mp referred
    rw [childrenNamed, refill_node inside process element node] at kept
    obtain ⟨held, called⟩ := List.mem_filter.mp kept
    apply named element node child held
    rw [isReference, of_decide_eq_true called]
    cases either with
    | inl incoming => simp [incoming]
    | inr outgoing => simp [outgoing]
  exact ⟨fun reference referred => resolved _ (each "incoming" (.inl rfl) reference referred),
    fun reference referred => resolved _ (each "outgoing" (.inr rfl) reference referred)⟩

end Process

theorem check_report (root process diagram : Element)
    (named : root.name? = some (modelName "definitions"))
    (processes : childrenNamed (modelName "process") root = [process])
    (diagrams : childrenNamed (diagramName "BPMNDiagram") root = [diagram]) :
    check root = ⟨processIssues root process diagram (Outline.ofProcess process),
      some (metricsOf (Outline.ofProcess process))⟩ := by
  rw [check]
  simp only [ne_eq, named, not_true_eq_false, if_false, processes, diagrams]

theorem check_refilled (inside : Element → List Element) (root process diagram : Element)
    (definitions : root.name? = some (modelName "definitions"))
    (processes : childrenNamed (modelName "process") root = [process])
    (diagrams : childrenNamed (diagramName "BPMNDiagram") root = [diagram])
    (silent : danglingReferences (Outline.ofProcess process) = [])
    (kept : ∀ node ∈ flowNodesOf process, idsOfAll (inside node) = idsOfAll node.children)
    (named : ∀ node ∈ flowNodesOf process, ∀ child ∈ inside node, isReference child →
      Names process child.text?) :
    check (refilled inside root) = check root := by
  have chosen : process ∈ childrenNamed (modelName "process") root := by
    rw [processes]
    exact List.mem_cons_self
  have drawn : diagram ∈ childrenNamed (diagramName "BPMNDiagram") root := by
    rw [diagrams]
    exact List.mem_cons_self
  have other : refilledProcess inside process = mapChildren (refill inside) process :=
    if_pos (of_decide_eq_true (List.mem_filter.mp chosen).2)
  have same : refilledProcess inside diagram = diagram := by
    rw [refilledProcess, of_decide_eq_true (List.mem_filter.mp drawn).2]
    exact if_neg (by decide)
  have report := bare_report (refilled inside root) root (mapChildren (refill inside) process)
    process diagram _ _ (ids_refilled inside root process processes kept)
    (attribute_mapped _ "id" process) (bare_refilled inside process)
    (references_refilled inside process named) silent
  rw [check_report root process diagram definitions processes diagrams,
    check_report (refilled inside root) (mapChildren (refill inside) process) diagram, report.1,
    report.2]
  · rw [refilled, name_mapped, definitions]
  · rw [refilled, children_mapped _ _ _ (name_refilled_process inside), processes,
      List.map_singleton, other]
  · rw [refilled, children_mapped _ _ _ (name_refilled_process inside), diagrams,
      List.map_singleton, same]

/-- A valid document refers to its flows only, and any other references to them are as valid: where a flow
leads is never compared with the node that names it. -/
theorem references_only_resolve (text : String) (root : Element) (read : Xml.read text = some root)
    (valid : (validate text).isValid) :
    ∃ process, childrenNamed (modelName "process") root = [process] ∧
      (∀ entry ∈ (Outline.ofProcess process).nodes,
        ∀ reference ∈ entry.2.incoming ++ entry.2.outgoing, Names process reference) ∧
      ∀ (inside : Element → List Element) (other : String),
        (∀ node ∈ flowNodesOf process, idsOfAll (inside node) = idsOfAll node.children) →
        (∀ node ∈ flowNodesOf process, ∀ child ∈ inside node, isReference child →
          Names process child.text?) →
        Xml.read other = some (refilled inside root) → validate other = validate text := by
  rw [validate, read] at valid
  obtain ⟨definitions, process, diagram, processes, diagrams, silent⟩ :=
    (check_valid_iff root).mp valid
  simp only [faults, List.append_eq_nil_iff, and_assoc] at silent
  obtain ⟨_, _, references, _⟩ := silent
  refine ⟨process, processes, ?_, ?_⟩
  · intro entry member reference referred
    obtain ⟨incoming, outgoing⟩ := (references_silent _).mp references entry member
    rw [← names_iff]
    cases List.mem_append.mp referred with
    | inl enters => exact incoming reference enters
    | inr leaves => exact outgoing reference leaves
  · intro inside other kept named another
    rw [validate, another, validate, read]
    exact check_refilled inside root process diagram definitions processes diagrams references kept
      named

/-- The flows of the island under each other's ids, as its nodes would name them by mistake. -/
def strayFlows : List Document.Flow :=
  [⟨"Flow_0_2", ⟨"a", "b", none⟩, "A", "B"⟩, ⟨"Flow_0_1", ⟨"c", "c", none⟩, "C", "C"⟩]

def strayProcess : Document.Element :=
  .element (Document.model "process")
    [Document.plain "id" "Process_0", Document.plain "name" "island",
      Document.plain "isExecutable" "false"]
    (islandSubject.graph.nodes.map (Document.nodeElement {} strayFlows) ++
      islandParts.flows.map Document.flowElement)

def strayRoot : Document.Element :=
  .element (Document.model "definitions") (Document.declarations ++ islandParts.attributes)
    [strayProcess, Document.diagramElement islandSubject islandParts.shapes islandParts.edges]

def strayNodes : List Element :=
  flowNodesOf (Document.readBack (some 1) strayProcess)

def strayInside (node : Element) : List Element :=
  ((strayNodes.find? fun stray => identifier? stray = identifier? node).map
    Xml.Node.children).getD []

theorem stray_read : Xml.read (Xml.printDocument strayRoot) =
    some (refilled strayInside islandParts.restored) := by
  have tidy : Xml.Tidy Document.scope 5 strayProcess := by
    refine .branch 4 _ _ _ (Document.tag_legible _ ["id", "name", "isExecutable"] _ (by decide) rfl
      (by decide)) ?_
    intro child member
    cases List.mem_append.mp member with
    | inl node =>
        obtain ⟨known, inside, rfl⟩ := List.mem_map.mp node
        have clean : Document.FlowsAllowed strayFlows := by
          rw [Document.FlowsAllowed]
          decide
        exact Document.tidy_node 2 strayFlows known clean
          (islandParts.element_id_allowed known inside)
    | inr flow =>
        obtain ⟨known, inside, rfl⟩ := List.mem_map.mp flow
        obtain ⟨id, source, target⟩ := islandParts.flows_allowed known inside
        exact Document.tidy_flow 3 known id source target
  have read := islandParts.read_around
    [strayProcess, Document.diagramElement islandSubject islandParts.shapes islandParts.edges] (by
      intro child member
      cases List.mem_cons.mp member with
      | inl first => exact first ▸ tidy
      | inr last => exact islandParts.tidy_children child (List.mem_cons_of_mem _ last))
  exact read

theorem stray_references_accepted :
    ∃ root process, Xml.read (Xml.printDocument strayRoot) = some root ∧
      childrenNamed (modelName "process") root = [process] ∧
      (validate (Xml.printDocument strayRoot)).isValid ∧
      validate (Xml.printDocument strayRoot) = validate (Xml.printDocument islandParts.root) ∧
      ∀ node ∈ flowNodesOf process, node.children.any isReference ∧
        ∀ flow ∈ sequenceFlowsOf process,
          (∀ child ∈ childrenNamed (modelName "incoming") node, identifier? flow = child.text? →
            attribute? "targetRef" flow ≠ identifier? node) ∧
          ∀ child ∈ childrenNamed (modelName "outgoing") node, identifier? flow = child.text? →
            attribute? "sourceRef" flow ≠ identifier? node := by
  obtain ⟨other, only, _, unseen⟩ := references_only_resolve
    (Xml.printDocument islandParts.root) islandParts.restored islandParts.read_root island_valid
  obtain rfl : islandProcess = other := List.singleton_inj.mp (island_processes.symm.trans only)
  have kept : ∀ node ∈ flowNodesOf islandProcess,
      idsOfAll (strayInside node) = idsOfAll node.children := by
    decide +kernel
  have named : ∀ node ∈ flowNodesOf islandProcess, ∀ child ∈ strayInside node, isReference child →
      Names islandProcess child.text? := by
    simp only [← names_iff]
    decide +kernel
  have same := unseen strayInside (Xml.printDocument strayRoot) kept named stray_read
  refine ⟨refilled strayInside islandParts.restored, mapChildren (refill strayInside) islandProcess,
    stray_read, ?_, ?_, same, ?_⟩
  · rfl
  · rw [same]
    exact island_valid
  · decide +kernel

end ProcessDiagram.Validation
