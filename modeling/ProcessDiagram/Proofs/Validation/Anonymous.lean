import Mathlib.Data.List.Dedup
import ProcessDiagram.Proofs.Validation.References

set_option autoImplicit false

namespace ProcessDiagram.Validation

section Merged

variable {Key : Type} [DecidableEq Key]

theorem merged_length (keys all : List Key) (key : Key) (distinct : keys.Nodup)
    (same : ∀ other, other ∈ keys ↔ other ∈ all) (single : (all.filter (· ≠ key)).Nodup) :
    keys.length + (all.count key - 1) = all.length := by
  have others : (keys.filter (· ≠ key)).length = (all.filter (· ≠ key)).length := by
    apply List.Perm.length_eq
    rw [List.perm_ext_iff_of_nodup (distinct.filter _) single]
    intro other
    rw [List.mem_filter, List.mem_filter, same]
  have split (texts : List Key) : texts.length =
      texts.count key + (texts.filter (· ≠ key)).length := by
    rw [← List.countP_eq_length_filter, List.count_eq_countP,
      List.length_eq_countP_add_countP (· == key)]
    simp
  have once : keys.count key = if key ∈ all then 1 else 0 := by
    rw [List.Nodup.count distinct]
    simp only [same]
  have known : key ∈ all ↔ 0 < all.count key := List.count_pos_iff.symm
  rw [split keys, split all, others, once]
  split
  · have present := known.mp ‹_›
    omega
  · have absent := known.not.mp ‹_›
    omega

theorem merged_distinct (all : List Key) (key : Key) (single : (all.filter (· ≠ key)).Nodup) :
    all.Nodup ↔ all.count key ≤ 1 := by
  rw [List.nodup_iff_count_le_one]
  constructor
  · exact fun each => each key
  · intro once other
    by_cases same : other = key
    · exact same ▸ once
    · have counted := List.nodup_iff_count_le_one.mp single other
      rwa [List.count_filter (by simpa using same)] at counted

end Merged

-- For each element another one of some that refers to it, and no two share one.
def Owned (referred : Element → Option String) (elements drawn : List Element) : Prop :=
  ∃ own : List Element, own.Subperm drawn ∧
    own.map (attribute? "bpmnElement") = elements.map referred

theorem owned_length (referred : Element → Option String) (elements drawn : List Element)
    (owned : Owned referred elements drawn) : elements.length ≤ drawn.length := by
  obtain ⟨own, inside, same⟩ := owned
  have count := congrArg List.length same
  rw [List.length_map, List.length_map] at count
  exact count ▸ inside.length_le

theorem owned_of_distinct (referred : Element → Option String) (elements drawn : List Element)
    (distinct : (elements.map referred).Nodup)
    (found : ∀ element ∈ elements, referred element ∈ drawn.map (attribute? "bpmnElement")) :
    Owned referred elements drawn := by
  obtain ⟨own, inside, same⟩ : ∃ own : List Element, own ⊆ drawn ∧
      own.map (attribute? "bpmnElement") = elements.map referred := by
    clear distinct
    induction elements with
    | nil => exact ⟨[], List.nil_subset _, rfl⟩
    | cons element rest ih =>
        obtain ⟨first, later⟩ := List.forall_mem_cons.mp found
        obtain ⟨shape, member, refers⟩ := List.mem_map.mp first
        obtain ⟨own, inside, same⟩ := ih later
        exact ⟨shape :: own, List.cons_subset.mpr ⟨member, inside⟩, by simp [refers, same]⟩
  rw [← same] at distinct
  exact ⟨own, List.subperm_of_subset distinct.of_map inside, same⟩

theorem count_chosen {Key : Type} [DecidableEq Key] (elements : List Element)
    (read : Element → Key) (key : Key) :
    (elements.map read).count key = (elements.filter fun one => read one = key).length := by
  rw [List.count_eq_countP, List.countP_map, List.countP_eq_length_filter]
  congr 1

theorem drawn_merged (referred : Element → Option String) (elements drawn : List Element)
    (key : Option String) (single : ((elements.map referred).filter (· ≠ key)).Nodup)
    (known : ∀ shape ∈ drawn, attribute? "bpmnElement" shape ∈ elements.map referred)
    (once : ∀ element ∈ elements,
      (drawn.map (attribute? "bpmnElement")).count (referred element) = 1) :
    drawn.length + ((elements.filter fun one => referred one = key).length - 1) = elements.length ∧
      (Owned referred elements drawn ↔
        (elements.filter fun one => referred one = key).length ≤ 1) := by
  have counted : ∀ reference ∈ elements.map referred,
      (drawn.map (attribute? "bpmnElement")).count reference = 1 := List.forall_mem_map.mpr once
  have each : ∀ reference, reference ∈ drawn.map (attribute? "bpmnElement") ↔
      reference ∈ elements.map referred := by
    intro reference
    refine ⟨fun member => List.forall_mem_map.mpr known reference member, fun member => ?_⟩
    rw [← List.count_pos_iff, counted reference member]
    exact Nat.one_pos
  have distinct : (drawn.map (attribute? "bpmnElement")).Nodup := by
    rw [List.nodup_iff_count_eq_one]
    exact fun reference member => counted reference ((each reference).mp member)
  have merged := merged_length _ _ key distinct each single
  rw [count_chosen, List.length_map, List.length_map] at merged
  refine ⟨merged, ?_, ?_⟩
  · intro owned
    have bound := owned_length referred elements drawn owned
    omega
  · intro few
    rw [← count_chosen, ← merged_distinct _ key single] at few
    refine owned_of_distinct referred elements drawn few fun element member => ?_
    exact (each _).mpr (List.mem_map_of_mem member)

-- What a flow node is kept under; without an id it is the empty text.
def nodeKey (node : Element) : String :=
  (identifier? node).getD ""

def anonymous (process : Element) : List Element :=
  (flowNodesOf process).filter fun node => nodeKey node = ""

def nameless (process : Element) : List Element :=
  (sequenceFlowsOf process).filter fun flow => identifier? flow = none

theorem named_keys (elements : List Element) :
    (elements.map nodeKey).filter (· ≠ "") = (elements.filterMap identifier?).filter (· ≠ "") := by
  induction elements with
  | nil => rfl
  | cons first rest ih =>
      cases named : identifier? first with
      | none =>
          rw [List.filterMap_cons_none named, ← ih, List.map_cons, nodeKey, named]
          rfl
      | some id =>
          rw [List.filterMap_cons_some named, List.map_cons, List.filter_cons, List.filter_cons, ih,
            nodeKey, named, Option.getD_some]

theorem named_ids (elements : List Element) :
    (elements.map identifier?).filter (· ≠ none) = (elements.filterMap identifier?).map some := by
  induction elements with
  | nil => rfl
  | cons first rest ih =>
      cases named : identifier? first with
      | none =>
          rw [List.filterMap_cons_none named, ← ih, List.map_cons, named]
          rfl
      | some id =>
          rw [List.filterMap_cons_some named, List.map_cons, List.map_cons, ← ih, named]
          rfl

mutual
-- Instructions can add to the ids of a document, which the elements in it do not see.
theorem ids_listed (node : Element) :
    ((within node).filterMap identifier?).Sublist (idsOf node) := by
  cases node with
  | element name attributes children =>
      rw [idsOf, within, List.filterMap_cons, identifier?, attribute?]
      cases attributes.lookup ⟨"", "id"⟩ with
      | none => exact ids_listed_all children
      | some id => exact (ids_listed_all children).cons_cons id
  | text value => simp [idsOf, within, identifier?, attribute?]
  | comment value => simp [idsOf, within, identifier?, attribute?]
  | instruction target data => exact List.nil_sublist _

theorem ids_listed_all (nodes : List Element) :
    ((withinAll nodes).filterMap identifier?).Sublist (idsOfAll nodes) := by
  cases nodes with
  | nil => exact .slnil
  | cons first rest =>
      rw [idsOfAll, withinAll, List.filterMap_append]
      exact (ids_listed first).append (ids_listed_all rest)
end

section Process

variable (process : Element)

theorem table_keys (key : String) :
    key ∈ Table.keys (Outline.ofProcess process).nodes ↔ key ∈ (flowNodesOf process).map nodeKey := by
  rw [nodes_table, Table.mem_keys_of_list, entry_keys]
  rfl

theorem has_key_iff (reference : Option String) :
    (Outline.ofProcess process).hasNode reference = true ↔
      reference ∈ (flowNodesOf process).map fun node => some (nodeKey node) := by
  cases reference with
  | none => simp [Outline.hasNode]
  | some id =>
      rw [Outline.hasNode, Table.get_is_some, table_keys]
      simp

variable (distinct : (process.children.filterMap identifier?).Nodup)

include distinct

theorem node_keys_single : (((flowNodesOf process).map nodeKey).filter (· ≠ "")).Nodup := by
  rw [named_keys]
  exact (node_ids_distinct process distinct).filter _

theorem flow_ids_single : (((sequenceFlowsOf process).map identifier?).filter (· ≠ none)).Nodup := by
  rw [named_ids]
  exact (distinct.sublist (List.filter_sublist.filterMap _)).map (Option.some_injective _)

theorem nodes_merged : (Outline.ofProcess process).nodes.length + ((anonymous process).length - 1) =
    (flowNodesOf process).length := by
  have merged := merged_length (Table.keys (Outline.ofProcess process).nodes)
    ((flowNodesOf process).map nodeKey) "" (Table.of_list_keys_distinct _) (table_keys process)
    (node_keys_single process distinct)
  rwa [count_chosen, List.length_map, Table.keys, List.length_map] at merged

theorem shapes_merged (plane : Element)
    (silent : planeIssues process (Outline.ofProcess process) plane = []) :
    (shapesOf plane).length + ((anonymous process).length - 1) = (flowNodesOf process).length ∧
      (Owned (fun node => some (nodeKey node)) (flowNodesOf process) (shapesOf plane) ↔
        (anonymous process).length ≤ 1) := by
  obtain ⟨_, shapes, counts, _⟩ := (plane_silent _ process plane).mp silent
  have single : (((flowNodesOf process).map fun node => some (nodeKey node)).filter
      (· ≠ some "")).Nodup := by
    have keys := (node_keys_single process distinct).map (Option.some_injective _)
    rw [List.filter_map, List.map_map] at keys
    rw [List.filter_map]
    simpa [Function.comp_def] using keys
  have chosen : anonymous process =
      (flowNodesOf process).filter fun node => some (nodeKey node) = some "" := by
    simp only [anonymous, Option.some.injEq]
  rw [chosen]
  refine drawn_merged _ _ _ _ single ?_ ?_
  · intro shape member
    exact (has_key_iff process _).mp ((shape_passes _ shape).mp (shapes shape member)).1
  · intro node member
    have key := (table_keys process (nodeKey node)).mpr (List.mem_map_of_mem member)
    obtain ⟨value, entry⟩ := (Table.mem_keys _ _).mp key
    exact (shape_counts_pass _ _).mp counts _ entry

theorem edges_merged (plane : Element)
    (silent : planeIssues process (Outline.ofProcess process) plane = []) :
    (edgesOf plane).length + ((nameless process).length - 1) = (sequenceFlowsOf process).length ∧
      (Owned identifier? (sequenceFlowsOf process) (edgesOf plane) ↔
        (nameless process).length ≤ 1) := by
  obtain ⟨_, _, _, edges, counts⟩ := (plane_silent _ process plane).mp silent
  refine drawn_merged _ _ _ _ (flow_ids_single process distinct) ?_ ?_
  · intro edge member
    exact List.mem_map.mpr ((names_iff process _).mp ((edge_passes _ edge).mp (edges edge member)).1)
  · exact (each_flow process _).mp ((edge_counts_pass _ _).mp counts)

theorem single_start (few : (anonymous process).length ≤ 1)
    (silent : eventCounts (Outline.ofProcess process) = []) :
    ∃ start, childrenNamed (modelName "startEvent") process = [start] := by
  rw [anonymous, ← count_chosen, ← merged_distinct _ "" (node_keys_single process distinct)] at few
  have whole : (Outline.ofProcess process).nodes = entriesOf process := by
    rw [nodes_table]
    apply Table.of_list_distinct
    rw [entry_keys]
    exact few
  have starts := ((events_silent _).mp silent).1
  rw [kind_keys process whole, List.length_map] at starts
  exact List.length_eq_one_iff.mp starts

theorem few_anonymous (identified : ∀ element ∈ flowNodesOf process ++ sequenceFlowsOf process,
    (identifier? element).isSome) :
    (anonymous process).length ≤ 1 ∧ (nameless process).length ≤ 1 := by
  obtain ⟨nodes, flows⟩ := List.forall_mem_append.mp identified
  constructor
  · have keys : ((flowNodesOf process).map nodeKey).Nodup := by
      have ids := identified_ids (flowNodesOf process) nodes
      exact ids ▸ node_ids_distinct process distinct
    rw [anonymous, ← count_chosen]
    exact List.nodup_iff_count_le_one.mp keys ""
  · have none : nameless process = [] := by
      rw [nameless, List.filter_eq_nil_iff]
      intro flow member
      have named := Option.ne_none_iff_isSome.mpr (flows flow member)
      simpa using named
    rw [none]
    exact Nat.zero_le 1

end Process

structure CountsElements (process plane : Element) (metrics : Metrics) : Prop where
  start : ∃ start, childrenNamed (modelName "startEvent") process = [start]
  edges : Owned identifier? (sequenceFlowsOf process) (edgesOf plane)
  shapes : Owned (fun node => some (nodeKey node)) (flowNodesOf process) (shapesOf plane)
  flowNodes : metrics.flowNodes = (flowNodesOf process).length
  sequenceFlows : metrics.sequenceFlows = (sequenceFlowsOf process).length

theorem counts_elements_iff (process plane : Element)
    (distinct : (process.children.filterMap identifier?).Nodup)
    (events : eventCounts (Outline.ofProcess process) = [])
    (silent : planeIssues process (Outline.ofProcess process) plane = []) :
    CountsElements process plane (metricsOf (Outline.ofProcess process)) ↔
      (anonymous process).length ≤ 1 ∧ (nameless process).length ≤ 1 := by
  have shapes := (shapes_merged process distinct plane silent).2
  have edges := (edges_merged process distinct plane silent).2
  constructor
  · intro counts
    exact ⟨shapes.mp counts.shapes, edges.mp counts.edges⟩
  · rintro ⟨few, named⟩
    have merged := nodes_merged process distinct
    refine ⟨single_start process distinct few events, edges.mpr named, shapes.mpr few, ?_, ?_⟩
    · change (Outline.ofProcess process).nodes.length = _
      omega
    · exact List.length_map _

/-- Flow nodes without an id have one shape together, and flows without one have one edge: the counts of a
valid document are right exactly when there is at most one of each. -/
theorem elements_counted_iff (text : String) (root : Element) (read : Xml.read text = some root)
    (valid : (validate text).isValid) :
    ∃ process diagram plane others metrics,
      childrenNamed (modelName "process") root = [process] ∧
      childrenNamed (diagramName "BPMNDiagram") root = [diagram] ∧
      childrenNamed (diagramName "BPMNPlane") diagram = plane :: others ∧
      (validate text).metrics = some metrics ∧
      metrics.sequenceFlows = (sequenceFlowsOf process).length ∧
      metrics.flowNodes + ((anonymous process).length - 1) = (flowNodesOf process).length ∧
      (shapesOf plane).length + ((anonymous process).length - 1) = (flowNodesOf process).length ∧
      (edgesOf plane).length + ((nameless process).length - 1) = (sequenceFlowsOf process).length ∧
      (CountsElements process plane metrics ↔
        (anonymous process).length ≤ 1 ∧ (nameless process).length ≤ 1) ∧
      ((∀ element ∈ flowNodesOf process ++ sequenceFlowsOf process,
        (identifier? element).isSome) → CountsElements process plane metrics) := by
  rw [validate, read] at valid ⊢
  obtain ⟨named, process, diagram, processes, diagrams, silent⟩ := (check_valid_iff root).mp valid
  simp only [faults, List.append_eq_nil_iff, and_assoc] at silent
  obtain ⟨ids, _, _, events, _, drawn⟩ := silent
  obtain ⟨plane, others, planes, silent⟩ := (diagram_silent_iff _ process diagram).mp drawn
  have distinct := children_distinct root process (single_child root _ process processes)
    (((no_duplicates root).mp ids).sublist (ids_listed root))
  have counts := counts_elements_iff process plane distinct events silent
  refine ⟨process, diagram, plane, others, metricsOf (Outline.ofProcess process), processes, diagrams,
    planes, ?_, List.length_map _, nodes_merged process distinct,
    (shapes_merged process distinct plane silent).1,
    (edges_merged process distinct plane silent).1, counts, ?_⟩
  · simp only [check_report root process diagram named processes diagrams]
  · exact fun identified => counts.mpr (few_anonymous process distinct identified)

def written (name : Xml.QualifiedName) (pairs : List (String × String))
    (children : List Document.Element) : Document.Element :=
  .element name (pairs.map fun pair => Document.plain pair.1 pair.2) children

/-- Two starts and two flows without ids, before an end with one. -/
def looseProcess : Document.Element :=
  written (Document.model "process") [("id", "Process_0")] [
    written (Document.model "startEvent") [] [], written (Document.model "startEvent") [] [],
    written (Document.model "endEvent") [("id", "End_0")] [],
    written (Document.model "sequenceFlow") [("sourceRef", ""), ("targetRef", "End_0")] [],
    written (Document.model "sequenceFlow") [("sourceRef", ""), ("targetRef", "End_0")] []]

/-- One shape for both starts and one edge for both flows. -/
def looseDiagram : Document.Element :=
  written (Document.diagram "BPMNDiagram") [] [
    written (Document.diagram "BPMNPlane") [("bpmnElement", "Process_0")] [
      written (Document.diagram "BPMNShape") [("bpmnElement", "")] [
        written (Document.box "Bounds") [] []],
      written (Document.diagram "BPMNShape") [("bpmnElement", "End_0")] [
        written (Document.box "Bounds") [] []],
      written (Document.diagram "BPMNEdge") [] [
        written (Document.point "waypoint") [] [], written (Document.point "waypoint") [] []]]]

def looseRoot : Document.Element :=
  .element (Document.model "definitions") (Document.declarations ++ islandParts.attributes)
    [looseProcess, looseDiagram]

theorem tidy_written (height : Nat) (name : Xml.QualifiedName) (pairs : List (String × String))
    (children : List Document.Element) (known : Document.isTag name (pairs.map Prod.fst))
    (allowed : ∀ pair ∈ pairs, Xml.hasForbidden pair.2 = false)
    (inside : ∀ child ∈ children, Xml.Tidy Document.scope height child) :
    Xml.Tidy Document.scope (height + 1) (written name pairs children) := by
  refine .branch height _ _ _ (Document.tag_legible _ _ _ known ?_ ?_) inside
  · rw [List.map_map, List.map_map]
    rfl
  · rw [List.forall_mem_map]
    exact allowed

theorem tidy_empty (height : Nat) (name : Xml.QualifiedName) (pairs : List (String × String))
    (known : Document.isTag name (pairs.map Prod.fst))
    (allowed : ∀ pair ∈ pairs, Xml.hasForbidden pair.2 = false) :
    Xml.Tidy Document.scope (height + 1) (written name pairs []) :=
  tidy_written height name pairs [] known allowed nofun

theorem loose_tidy : ∀ child ∈ [looseProcess, looseDiagram], Xml.Tidy Document.scope 5 child := by
  have bounds : ∀ child ∈ [written (Document.box "Bounds") [] []], Xml.Tidy Document.scope 2 child :=
    List.forall_mem_singleton.mpr (tidy_empty 1 _ _ (by decide) (by decide))
  have point : Xml.Tidy Document.scope 2 (written (Document.point "waypoint") [] []) :=
    tidy_empty 1 _ _ (by decide) (by decide)
  simp only [List.forall_mem_cons, List.not_mem_nil, IsEmpty.forall_iff, implies_true, and_true]
  constructor
  · refine tidy_written 4 _ _ _ (by decide) (by decide) ?_
    simp only [List.forall_mem_cons, List.not_mem_nil, IsEmpty.forall_iff, implies_true, and_true]
    exact ⟨tidy_empty 3 _ _ (by decide) (by decide), tidy_empty 3 _ _ (by decide) (by decide),
      tidy_empty 3 _ _ (by decide) (by decide), tidy_empty 3 _ _ (by decide) (by decide),
      tidy_empty 3 _ _ (by decide) (by decide)⟩
  · refine tidy_written 4 _ _ _ (by decide) (by decide) (List.forall_mem_singleton.mpr ?_)
    refine tidy_written 3 _ _ _ (by decide) (by decide) ?_
    simp only [List.forall_mem_cons, List.not_mem_nil, IsEmpty.forall_iff, implies_true, and_true]
    exact ⟨tidy_written 2 _ _ _ (by decide) (by decide) bounds,
      tidy_written 2 _ _ _ (by decide) (by decide) bounds,
      tidy_written 2 _ _ _ (by decide) (by decide)
        (List.forall_mem_cons.mpr ⟨point, List.forall_mem_singleton.mpr point⟩)⟩

theorem loose_miscounted :
    ∃ root process diagram plane others metrics,
      Xml.read (Xml.printDocument looseRoot) = some root ∧
      (validate (Xml.printDocument looseRoot)).isValid ∧
      childrenNamed (modelName "process") root = [process] ∧
      childrenNamed (diagramName "BPMNDiagram") root = [diagram] ∧
      childrenNamed (diagramName "BPMNPlane") diagram = plane :: others ∧
      (validate (Xml.printDocument looseRoot)).metrics = some metrics ∧
      (childrenNamed (modelName "startEvent") process).length = 2 ∧
      ¬ CountsElements process plane metrics := by
  let process := Document.readBack (some 1) looseProcess
  let diagram := Document.readBack (some 1) looseDiagram
  have read := islandParts.read_around [looseProcess, looseDiagram] loose_tidy
  have valid : (validate (Xml.printDocument looseRoot)).isValid := by
    rw [looseRoot, validate, read]
    refine (check_valid_iff _).mpr ⟨rfl, process, diagram, rfl, rfl, ?_⟩
    -- Sorting does not compute here; the edges of each flow are counted without it.
    simp only [faults, List.append_eq_nil_iff, diagram_silent_iff, plane_silent, edge_counts_pass]
    exact ⟨⟨⟨⟨⟨by decide +kernel, by decide +kernel⟩, by decide +kernel⟩, by decide +kernel⟩,
      by decide +kernel⟩, _, _, rfl, rfl, by decide +kernel, by decide +kernel, by decide +kernel,
      by decide +kernel⟩
  obtain ⟨other, drawing, plane, others, metrics, processes, diagrams, planes, counted, _, _, _, _,
    counts, _⟩ := elements_counted_iff _ _ read valid
  obtain rfl : process = other := List.singleton_inj.mp processes
  have two : (anonymous process).length = 2 := by decide +kernel
  refine ⟨_, process, drawing, plane, others, metrics, read, valid, processes, diagrams, planes,
    counted, by decide +kernel, ?_⟩
  rw [counts, two]
  exact fun few => absurd few.1 (by decide)

end ProcessDiagram.Validation
