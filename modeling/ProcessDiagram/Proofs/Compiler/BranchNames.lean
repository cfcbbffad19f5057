import ProcessDiagram.Proofs.Compiler.Outcome
import ProcessDiagram.Proofs.Document.Recovery
import ProcessDiagram.Proofs.Graph.Orderly

set_option autoImplicit false

namespace ProcessDiagram

namespace Xml

theorem filter_allowed (text : String) (allowed : hasForbidden text = false) :
    filterText text = text := by
  rw [hasForbidden, List.any_eq_false] at allowed
  have kept : (text.toList.filter fun c => !isForbidden c) = text.toList :=
    List.filter_eq_self.mpr fun c member => by simpa using allowed c member
  rw [filterText, kept, String.ofList_toList]

end Xml

namespace Graph

variable (graph : Graph)

theorem label_nonempty (edge : Edge) (label : String) (shown : edge.label? = some label) :
    label ≠ "" :=
  of_decide_eq_true (Option.filter_eq_some_iff.mp shown).2

structure ShownApart : Prop where
  shown : ∀ edge ∈ graph.edges, ∀ label, edge.label? = some label → Xml.filterText label ≠ ""
  distinct : ∀ node ∈ graph.nodes, node.kind = .exclusiveGateway →
    ((graph.branchLabels node.id).map Xml.filterText).Nodup

theorem mem_labels (id label : String) (member : label ∈ graph.branchLabels id) :
    ∃ edge ∈ graph.edges, edge.label? = some label := by
  obtain ⟨edge, leaves, shown⟩ := List.mem_filterMap.mp member
  exact ⟨edge, List.mem_of_mem_filter leaves, shown⟩

theorem allowed_apart (sound : graph.Sound) (allowed : ∀ edge ∈ graph.edges, ∀ label,
    edge.label? = some label → Xml.hasForbidden label = false) : graph.ShownApart := by
  constructor
  · intro edge member label shown
    rw [Xml.filter_allowed label (allowed edge member label shown)]
    exact label_nonempty edge label shown
  · intro node member exclusive
    have same : (graph.branchLabels node.id).map Xml.filterText = graph.branchLabels node.id := by
      refine (List.map_congr_left fun label inside => ?_).trans (List.map_id _)
      obtain ⟨edge, leaves, shown⟩ := mem_labels graph node.id label inside
      exact Xml.filter_allowed label (allowed edge leaves label shown)
    rw [same]
    exact sound.labelled node member exclusive

theorem exclusive_labels (orderly : graph.Orderly) (node : Node) (member : node ∈ graph.nodes)
    (exclusive : node.kind = .exclusiveGateway) :
    (graph.outgoing node.id).map Edge.label? = (graph.branchLabels node.id).map some := by
  have labelled : ∀ edge ∈ graph.outgoing node.id, edge.label?.isSome := by
    intro edge leaves
    obtain ⟨listed, source⟩ := List.mem_filter.mp leaves
    have suits := orderly.suited edge listed node member (of_decide_eq_true source).symm
    exact Option.isSome_iff_ne_none.mpr (suits.2.2 exclusive)
  rw [branchLabels]
  generalize graph.outgoing node.id = edges at labelled
  induction edges with
  | nil => rfl
  | cons edge rest ih =>
      obtain ⟨first, others⟩ := List.forall_mem_cons.mp labelled
      obtain ⟨label, shown⟩ := Option.isSome_iff_exists.mp first
      rw [List.map_cons, List.filterMap_cons_some shown, List.map_cons, ih others, shown]

end Graph

namespace Document

open Xml (filterText)

def Shows (name : Option String) : Prop :=
  ∃ text, name = some text ∧ text ≠ ""

def ProcessContents.namesFrom (process : ProcessContents) (elementId : String) :
    List (Option String) :=
  (process.flows.filter fun flow => flow.source = elementId).map FlowContents.name

-- Branches have different names, and labels stand where flows have names.
structure Contents.TellsBranches (contents : Contents) : Prop where
  distinct : ∀ node ∈ contents.process.nodes, node.kind = .exclusiveGateway →
    (contents.process.namesFrom node.elementId).Nodup ∧
      ∀ name ∈ contents.process.namesFrom node.elementId, Shows name
  labelled : ∀ flow ∈ contents.process.flows, ∀ edge ∈ contents.diagram.edges,
    edge.element = flow.id → (edge.label.isSome ↔ Shows flow.name)

namespace Parts

variable {options : Options} {subject : Subject} (parts : Parts options subject)

def contents : Contents where
  id := "Definitions_" ++ subject.token
  targetNamespace := options.targetNamespace.shown
  exporter := options.exporter.shown
  exporterVersion := options.exporterVersion.shown
  process := {
    id := subject.processId
    name := filterText subject.name
    documentation := documentationText options subject.documentation
    nodes := subject.graph.nodes.map (NodeContents.ofNode options subject)
    flows := parts.flows.map FlowContents.ofFlow }
  diagram := {
    id := "BPMNDiagram_" ++ subject.token
    planeId := "BPMNPlane_" ++ subject.token
    planeElement := subject.processId
    shapes := parts.shapes.map ShapeContents.ofShape
    edges := parts.edges.map EdgeContents.ofPath }

theorem contents_held : Contents.ofSubject? options subject = some parts.contents := by
  simp only [Contents.ofSubject?, ProcessContents.ofSubject?, DiagramContents.ofSubject?,
    parts.flows_contents, parts.shapes_contents, parts.edges_contents]
  rfl

theorem flow_edges : parts.flows.map Flow.edge = subject.graph.edges := by
  have edges := congrArg (List.map Prod.fst) parts.flows_edges
  rw [List.map_map, List.map_map] at edges
  exact edges.trans (List.zipIdx_map_fst 0 subject.graph.edges)

theorem names_from (sound : subject.graph.Sound) (node : Node)
    (member : node ∈ subject.graph.nodes) :
    parts.contents.process.namesFrom node.elementId =
      (subject.graph.outgoing node.id).map fun edge => edge.label?.map filterText := by
  have leaving : ∀ flow ∈ parts.flows,
      decide (flow.source = node.elementId) = decide (flow.edge.source = node.id) := by
    intro flow inside
    obtain ⟨_, ⟨source, listed, id, element⟩, _⟩ := parts.flow_joins flow inside
    rw [element, ← id, decide_eq_decide]
    constructor
    · exact fun same => congrArg Node.id
        (List.inj_on_of_nodup_map sound.elementsDistinct listed member same)
    · exact fun same => congrArg Node.elementId
        (List.inj_on_of_nodup_map sound.distinct listed member same)
  have chosen := List.filter_congr leaving
  rw [Graph.outgoing, ← parts.flow_edges, List.filter_map, List.map_map]
  change ((parts.flows.map FlowContents.ofFlow).filter _).map _ = _
  rw [List.filter_map, List.map_map]
  exact congrArg (List.map _) chosen

theorem exclusive_names (sound : subject.graph.Sound) (orderly : subject.graph.Orderly)
    (node : Node) (member : node ∈ subject.graph.nodes) (exclusive : node.kind = .exclusiveGateway) :
    parts.contents.process.namesFrom node.elementId =
      ((subject.graph.branchLabels node.id).map filterText).map some := by
  have labels := congrArg (List.map (Option.map filterText))
    (subject.graph.exclusive_labels orderly node member exclusive)
  rw [List.map_map, List.map_map] at labels
  rw [parts.names_from sound node member, List.map_map]
  exact labels

theorem label_drawn (flow : FlowContents) (inside : flow ∈ parts.contents.process.flows)
    (edge : EdgeContents) (drawn : edge ∈ parts.contents.diagram.edges)
    (same : edge.element = flow.id) :
    ∃ origin ∈ subject.graph.edges, edge.label.isSome = origin.label?.isSome ∧
      flow.name = origin.label?.map filterText := by
  obtain ⟨written, member, rfl⟩ := List.mem_map.mp inside
  obtain ⟨routed, listed, rfl⟩ := List.mem_map.mp drawn
  have distinct : (parts.flows.map Flow.id).Nodup := by
    rw [Validation.flows_ids parts]
    exact Validation.flows_distinct subject.token subject.graph
  have one : routed.1 = written :=
    List.inj_on_of_nodup_map distinct (parts.edge_flow routed listed) member same
  refine ⟨written.edge, (parts.flow_joins written member).1, ?_, rfl⟩
  rw [EdgeContents.ofPath, one, Option.isSome_map]

theorem shows_filtered (name : Option String) :
    Shows (name.map filterText) ↔ ∃ label, name = some label ∧ filterText label ≠ "" := by
  cases name with
  | none => simp [Shows]
  | some label => simp [Shows]

theorem tells_branches_iff (sound : subject.graph.Sound) (orderly : subject.graph.Orderly) :
    parts.contents.TellsBranches ↔ subject.graph.ShownApart := by
  constructor
  · intro tells
    constructor
    · intro edge member label shown
      obtain ⟨flow, inside, rfl⟩ := parts.edge_has_flow edge member
      obtain ⟨routed, listed, rfl⟩ := List.mem_map.mp (parts.edges_flows.symm ▸ inside)
      have labelled := (tells.labelled _ (List.mem_map_of_mem inside) _ (List.mem_map_of_mem listed)
        rfl).mp (by rw [EdgeContents.ofPath, shown]; rfl)
      obtain ⟨other, same, rest⟩ := (shows_filtered _).mp labelled
      rw [shown] at same
      exact Option.some.inj same ▸ rest
    · intro node member exclusive
      have names := (tells.distinct _ (List.mem_map_of_mem member) exclusive).1
      rw [NodeContents.ofNode, parts.exclusive_names sound orderly node member exclusive] at names
      exact names.of_map
  · intro apart
    constructor
    · intro told listed exclusive
      obtain ⟨node, member, rfl⟩ := List.mem_map.mp listed
      have names := parts.exclusive_names sound orderly node member exclusive
      rw [NodeContents.ofNode, names]
      refine ⟨(apart.distinct node member exclusive).map (Option.some_injective _), ?_⟩
      intro name shown
      obtain ⟨_, filtered, rfl⟩ := List.mem_map.mp shown
      obtain ⟨label, inside, rfl⟩ := List.mem_map.mp filtered
      obtain ⟨edge, leaves, labelled⟩ := subject.graph.mem_labels node.id label inside
      exact ⟨_, rfl, apart.shown edge leaves label labelled⟩
    · intro flow inside edge drawn same
      obtain ⟨origin, member, labelled, named⟩ := parts.label_drawn flow inside edge drawn same
      rw [labelled, named, shows_filtered, Option.isSome_iff_exists]
      exact exists_congr fun label =>
        ⟨fun shown => ⟨shown, apart.shown origin member label shown⟩, And.left⟩

end Parts

end Document

namespace Compilation

open Identifier (isHex)

theorem compile_stages (config : Config) (archetypes : Archetypes) (data : Json) (digits : String)
    (result : Compilation) (compiled : compile config archetypes data digits = .ok result) :
    Graph.ofDescription archetypes config.honorGateways (descriptionOf data)
        (Identifier.tokenOf digits) = .ok result.graph ∧
      ∃ subject : Document.Subject, subject.graph = result.graph ∧
        Document.write config.document subject = .ok result.xml := by
  obtain ⟨found, written, _⟩ := compile_runs config archetypes data digits result compiled
  exact ⟨(Each.renamed_ok _ _ _).mp found, written⟩

/-- The branches in a document can be told apart exactly when what it may hold of their labels is distinct
and never empty. -/
theorem branches_told_iff (config : Config) (data : Json) (digits : String) (result : Compilation)
    (compiled : compile config defaultArchetypes data digits = .ok result) :
    ∃ root contents, Xml.read result.xml = some root ∧
      Document.Contents.read? root = some contents ∧
      (contents.TellsBranches ↔ result.graph.ShownApart) ∧
      ((∀ edge ∈ result.graph.edges, ∀ label, edge.label? = some label →
        Xml.hasForbidden label = false) → contents.TellsBranches) := by
  obtain ⟨found, subject, same, written⟩ :=
    compile_stages config defaultArchetypes data digits result compiled
  obtain ⟨graph, built, sound, orderly⟩ := Graph.description_orderly Float.ofInt
    config.honorGateways (descriptionOf data) (Identifier.tokenOf digits)
  obtain rfl : graph = result.graph := Except.ok.inj (built.symm.trans found)
  obtain ⟨parts, read⟩ := Document.read_written result.xml written
  rw [← same] at sound orderly ⊢
  have tells := parts.tells_branches_iff sound orderly
  exact ⟨parts.restored, parts.contents, read, parts.contents_read.trans parts.contents_held, tells,
    fun allowed => tells.mpr (subject.graph.allowed_apart sound allowed)⟩

/-- A decision with two outcomes that only controls tell from others. -/
def controlOutcomes : Json :=
  .record [
    ("steps", .list [.record [("id", .text "check"), ("type", .text "gateway")]]),
    ("gateways", .list [.record [("id", .text "check"),
      ("outcomes", .list [.text "yes", .text "yes\x01", .text "\x02", .text "no"])]])]

theorem control_outcomes_untold :
    ∃ result root contents,
      compile { honorGateways := true } defaultArchetypes controlOutcomes zeros = .ok result ∧
        Xml.read result.xml = some root ∧ Document.Contents.read? root = some contents ∧
          ¬ contents.TellsBranches := by
  have long : zeros.length = 32 := by decide
  have hex : ∀ c ∈ zeros.toList, isHex c := List.all_eq_true.mp (by decide)
  obtain ⟨graph, diagram, text, root, metrics, found, built, _, shown, validated, compiled⟩ :=
    stages_pass true true .auto controlOutcomes zeros long hex
  have chosen := Graph.generic_chosen defaultArchetypes true (descriptionOf controlOutcomes)
    (Identifier.tokenOf zeros) (Identifier.token_hex zeros hex) (token_nonempty zeros long) rfl
  obtain rfl : Graph.generic (descriptionOf controlOutcomes) true (Identifier.tokenOf zeros) =
      graph := by
    rw [graphOf, configOf, chosen] at found
    exact Except.ok.inj found
  have distinct : (Validation.idsOf root).Nodup := by
    rw [shown]
    decide +kernel
  obtain ⟨passes, _⟩ :=
    report_of_ids (configOf true true .auto) rfl text root metrics validated
  rw [passes distinct] at compiled
  obtain ⟨root, contents, read, told, tells, _⟩ :=
    branches_told_iff { honorGateways := true } controlOutcomes zeros _ compiled
  refine ⟨_, root, contents, compiled, read, told, fun all => ?_⟩
  obtain ⟨edge, member, label⟩ : ∃ edge ∈ (Graph.generic (descriptionOf controlOutcomes) true
      (Identifier.tokenOf zeros)).edges, edge.label? = some "\x02" := by
    decide +kernel
  exact (tells.mp all).shown edge member "\x02" label (by decide)

end Compilation

end ProcessDiagram
