import ProcessDiagram.Proofs.Validation.Silence

set_option autoImplicit false

namespace ProcessDiagram.Validation

def Grave (issues : List Issue) : Prop :=
  ∀ issue ∈ issues, issue.level = .error

theorem grave_when (condition : Bool) (category : Category) (message : String)
    (elementId suggestion : Option String) :
    Grave (when condition (problem category message elementId suggestion)) := by
  intro issue member
  rw [when] at member
  split at member
  · rw [List.mem_singleton.mp member]
    rfl
  · cases member

theorem grave_append (first second : List Issue) (one : Grave first) (other : Grave second) :
    Grave (first ++ second) := by
  intro issue member
  rcases List.mem_append.mp member with before | behind
  · exact one issue before
  · exact other issue behind

theorem grave_each {Source : Type} (sources : List Source) (rule : Source → List Issue)
    (each : ∀ source, Grave (rule source)) : Grave (sources.flatMap rule) := by
  intro issue member
  obtain ⟨source, _, found⟩ := List.mem_flatMap.mp member
  exact each source issue found

theorem grave_duplicates (root : Element) : Grave (duplicateIds root) :=
  grave_each _ _ fun _ => grave_when _ _ _ _ _

variable (outline : Outline)

theorem grave_ends : Grave (danglingEnds outline) :=
  grave_each _ _ fun _ => grave_append _ _ (grave_when _ _ _ _ _) (grave_when _ _ _ _ _)

theorem grave_references : Grave (danglingReferences outline) :=
  grave_each _ _ fun _ => grave_append _ _
    (grave_each _ _ fun _ => grave_when _ _ _ _ _) (grave_each _ _ fun _ => grave_when _ _ _ _ _)

theorem grave_events : Grave (eventCounts outline) :=
  grave_append _ _ (grave_when _ _ _ _ _) (grave_when _ _ _ _ _)

theorem grave_dead_ends : Grave (deadEnds outline) :=
  grave_each _ _ fun _ => grave_append _ _ (grave_when _ _ _ _ _) (grave_when _ _ _ _ _)

theorem grave_plane (process plane : Element) : Grave (planeIssues process outline plane) := by
  have shape : ∀ shape, Grave (shapeIssues outline shape) := fun _ =>
    grave_append _ _ (grave_when _ _ _ _ _) (grave_when _ _ _ _ _)
  have edge : ∀ edge, Grave (edgeIssues outline edge) := fun _ =>
    grave_append _ _ (grave_when _ _ _ _ _) (grave_when _ _ _ _ _)
  exact grave_append _ _ (grave_append _ _ (grave_append _ _ (grave_append _ _
    (grave_when _ _ _ _ _) (grave_each _ _ shape)) (grave_each _ _ fun _ => grave_when _ _ _ _ _))
    (grave_each _ _ edge)) (grave_each _ _ fun _ => grave_when _ _ _ _ _)

theorem grave_diagram (process diagram : Element) :
    Grave (diagramIssues process outline diagram) := by
  rw [diagramIssues]
  split
  · exact grave_when true _ _ _ _
  · exact grave_plane outline process _

theorem grave_counts (processes diagrams : List Element) : Grave (countIssues processes diagrams) :=
  grave_append _ _ (grave_when _ _ _ _ _) (grave_when _ _ _ _ _)

theorem unreachable_warns : ∀ issue ∈ unreachable outline, issue.level = .warning := by
  intro issue member
  rw [unreachable] at member
  split at member
  · obtain ⟨⟨id, node⟩, _, found⟩ := List.mem_flatMap.mp member
    simp only [when] at found
    split at found
    · rw [List.mem_singleton.mp found]
    · cases found
  · cases member

theorem level_all (issues : List Issue) (level : Level)
    (each : ∀ issue ∈ issues, issue.level = level) (metrics : Option Metrics) :
    (Report.mk issues metrics).ofLevel level = issues :=
  List.filter_eq_self.mpr fun issue member => decide_eq_true (each issue member)

theorem level_none (issues : List Issue) (level other : Level) (apart : level ≠ other)
    (each : ∀ issue ∈ issues, issue.level = level) (metrics : Option Metrics) :
    (Report.mk issues metrics).ofLevel other = [] :=
  List.filter_eq_nil_iff.mpr fun issue member same =>
    apart ((each issue member).symm.trans (of_decide_eq_true same))

theorem level_append (first second : List Issue) (level : Level) (metrics : Option Metrics) :
    (Report.mk (first ++ second) metrics).ofLevel level =
      (Report.mk first metrics).ofLevel level ++ (Report.mk second metrics).ofLevel level :=
  List.filter_append first second

-- What is wrong with a process and its diagram; only nodes out of reach are left to warnings.
def faults (root process diagram : Element) (outline : Outline) : List Issue :=
  duplicateIds root ++ danglingEnds outline ++ danglingReferences outline ++ eventCounts outline ++
    deadEnds outline ++ diagramIssues process outline diagram

theorem process_levels (root process diagram : Element) (metrics : Option Metrics) :
    (Report.mk (processIssues root process diagram outline) metrics).errors =
        faults root process diagram outline ∧
      (Report.mk (processIssues root process diagram outline) metrics).warnings =
        unreachable outline := by
  have before : Grave (duplicateIds root ++ danglingEnds outline ++ danglingReferences outline ++
      eventCounts outline ++ deadEnds outline) :=
    grave_append _ _ (grave_append _ _ (grave_append _ _ (grave_append _ _ (grave_duplicates root)
      (grave_ends outline)) (grave_references outline)) (grave_events outline))
      (grave_dead_ends outline)
  have behind := grave_diagram outline process diagram
  have apart : Level.warning ≠ .error := by decide
  constructor
  · rw [Report.errors, processIssues, level_append, level_append, level_all _ _ before,
      level_all _ _ behind, level_none _ _ _ apart (unreachable_warns outline), List.append_nil]
    rfl
  · rw [Report.warnings, processIssues, level_append, level_append,
      level_none _ _ _ apart.symm before, level_none _ _ _ apart.symm behind,
      level_all _ _ (unreachable_warns outline), List.nil_append, List.append_nil]

theorem ends_silent : danglingEnds outline = [] ↔
    ∀ flow ∈ outline.flows,
      outline.hasNode flow.source = true ∧ outline.hasNode flow.target = true := by
  simp [danglingEnds, danglingEnd, when_nothing]

theorem references_silent : danglingReferences outline = [] ↔
    ∀ entry ∈ outline.nodes, (∀ reference ∈ entry.2.incoming, outline.hasFlow reference = true) ∧
      ∀ reference ∈ entry.2.outgoing, outline.hasFlow reference = true := by
  simp [danglingReferences, danglingReference, when_nothing]

theorem events_silent : eventCounts outline = [] ↔
    (outline.ofKind .startEvent).length = 1 ∧ outline.ofKind .endEvent ≠ [] := by
  simp [eventCounts, when_nothing]

theorem dead_ends_silent : deadEnds outline = [] ↔
    ∀ entry ∈ outline.nodes,
      (entry.2.kind ≠ .startEvent → some entry.1 ∈ outline.flows.map Flow.target) ∧
        (entry.2.kind ≠ .endEvent → some entry.1 ∈ outline.flows.map Flow.source) := by
  simp [deadEnds, when_nothing]

theorem shape_passes (shape : Element) : shapeIssues outline shape = [] ↔
    outline.hasNode (attribute? "bpmnElement" shape) = true ∧
      childrenNamed (boxName "Bounds") shape ≠ [] := by
  simp [shapeIssues, when_nothing]

theorem edge_passes (edge : Element) : edgeIssues outline edge = [] ↔
    outline.hasFlow (attribute? "bpmnElement" edge) = true ∧
      2 ≤ (childrenNamed (pointName "waypoint") edge).length := by
  rw [edgeIssues, List.append_eq_nil_iff, when_nothing, when_nothing, Bool.not_eq_false',
    decide_eq_false_iff_not, Nat.not_lt]

theorem shape_counts_pass (shapes : List Element) : shapeCounts outline shapes = [] ↔
    ∀ entry ∈ outline.nodes, (shapes.map (attribute? "bpmnElement")).count (some entry.1) = 1 := by
  simp [shapeCounts, when_nothing]

theorem edge_counts_pass (edges : List Element) : edgeCounts outline edges = [] ↔
    ∀ flow ∈ outline.flows, (edges.map (attribute? "bpmnElement")).count flow.id = 1 := by
  simp [edgeCounts, when_nothing, sortedFlowIds]

theorem plane_silent (process plane : Element) : planeIssues process outline plane = [] ↔
    attribute? "bpmnElement" plane = attribute? "id" process ∧
      (∀ shape ∈ childrenNamed (diagramName "BPMNShape") plane, shapeIssues outline shape = []) ∧
      shapeCounts outline (childrenNamed (diagramName "BPMNShape") plane) = [] ∧
      (∀ edge ∈ childrenNamed (diagramName "BPMNEdge") plane, edgeIssues outline edge = []) ∧
      edgeCounts outline (childrenNamed (diagramName "BPMNEdge") plane) = [] := by
  simp [planeIssues, when_nothing, List.flatMap_eq_nil_iff]

theorem diagram_silent_iff (process diagram : Element) : diagramIssues process outline diagram = [] ↔
    ∃ plane others, childrenNamed (diagramName "BPMNPlane") diagram = plane :: others ∧
      planeIssues process outline plane = [] := by
  rw [diagramIssues]
  cases childrenNamed (diagramName "BPMNPlane") diagram with
  | nil => simp
  | cons plane others => simp

theorem check_valid_iff (root : Element) : (check root).isValid ↔
    root.name? = some (modelName "definitions") ∧
      ∃ process diagram, childrenNamed (modelName "process") root = [process] ∧
        childrenNamed (diagramName "BPMNDiagram") root = [diagram] ∧
        faults root process diagram (Outline.ofProcess process) = [] := by
  rw [check]
  by_cases named : root.name? = some (modelName "definitions")
  · simp only [ne_eq, named, not_true_eq_false, if_false, true_and]
    split
    · rename_i process diagram processes diagrams
      rw [Report.isValid, (process_levels _ _ _ _ _).1, List.isEmpty_iff, processes, diagrams]
      simp
    · rename_i several
      constructor
      · intro valid
        rw [Report.isValid, Report.errors, level_all _ _ (grave_counts _ _), List.isEmpty_iff,
          countIssues, List.append_eq_nil_iff, when_nothing, when_nothing] at valid
        simp only [ne_eq, decide_not, Bool.not_eq_false', decide_eq_true_eq] at valid
        obtain ⟨process, processes⟩ := List.length_eq_one_iff.mp valid.1
        obtain ⟨diagram, diagrams⟩ := List.length_eq_one_iff.mp valid.2
        exact absurd diagrams (several process diagram processes)
      · rintro ⟨process, diagram, processes, diagrams, _⟩
        exact absurd diagrams (several process diagram processes)
  · simp [named, Report.isValid, Report.errors, Report.ofLevel, problem]

theorem check_warnings (root process diagram : Element)
    (named : root.name? = some (modelName "definitions"))
    (processes : childrenNamed (modelName "process") root = [process])
    (diagrams : childrenNamed (diagramName "BPMNDiagram") root = [diagram]) :
    (check root).warnings = unreachable (Outline.ofProcess process) := by
  rw [check]
  simp only [ne_eq, named, not_true_eq_false, if_false, processes, diagrams]
  exact (process_levels _ _ _ _ _).2

theorem said_apart (text : String) (said : Option String) :
    (validate text said).isValid = (validate text).isValid ∧
      ∀ root, Xml.read text = some root → validate text said = validate text := by
  rw [validate, validate]
  cases Xml.read text with
  | none =>
      refine ⟨rfl, ?_⟩
      intro root read
      cases read
  | some root => exact ⟨rfl, fun _ _ => rfl⟩

end ProcessDiagram.Validation
