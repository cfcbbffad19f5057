import ProcessDiagram.Proofs.Document.Texts
import ProcessDiagram.Proofs.Each
import ProcessDiagram.Proofs.Graph.Sound

set_option autoImplicit false

namespace ProcessDiagram.Document

open Xml (QualifiedName hasForbidden)

-- The parts from which the tree of a subject is built, each of them found without a failure.
structure Parts (options : Options) (subject : Subject) where
  flows : List Flow
  shapes : List (Node × Box Float)
  edges : List (Flow × Path)
  flowsFound : List.Forall₂ (fun entry flow => flowOf subject.graph subject.token entry = .ok flow)
    subject.graph.edges.zipIdx flows
  shapesFound : List.Forall₂ (fun node shape => positionOf subject.diagram node = .ok shape)
    subject.graph.nodes shapes
  edgesFound : List.Forall₂ (fun entry edge => pathOf subject.diagram entry = .ok edge)
    flows.zipIdx edges
  checked : ∀ text ∈ rawTexts options subject, checkRaw text = .ok ()

variable {options : Options} {subject : Subject}

def Parts.attributes (_ : Parts options subject) : List (QualifiedName × String) :=
  [plain "id" ("Definitions_" ++ subject.token),
    plain "targetNamespace" options.targetNamespace.shown,
    plain "exporter" options.exporter.shown,
    plain "exporterVersion" options.exporterVersion.shown]

def Parts.children (parts : Parts options subject) : List Element :=
  [processElement options subject parts.flows, diagramElement subject parts.shapes parts.edges]

def Parts.root (parts : Parts options subject) : Element :=
  .element (model "definitions") (declarations ++ parts.attributes) parts.children

theorem parts_of_tree (root : Element) (built : tree options subject = .ok root) :
    ∃ parts : Parts options subject, root = parts.root := by
  obtain ⟨flows, flowsFound, built⟩ := Each.bind_ok _ _ _ built
  obtain ⟨_, checked, built⟩ := Each.bind_ok _ _ _ built
  obtain ⟨shapes, shapesFound, built⟩ := Each.bind_ok _ _ _ built
  obtain ⟨edges, edgesFound, built⟩ := Each.bind_ok _ _ _ built
  refine ⟨⟨flows, shapes, edges, (Each.all_ok _ _ _).mp flowsFound,
    (Each.all_ok _ _ _).mp shapesFound, (Each.all_ok _ _ _).mp edgesFound,
    (Each.all_checked _ _).mp checked⟩, ?_⟩
  exact (Except.ok.inj built).symm

theorem raw_text_allowed (value : String) (checked : checkRaw (.text value) = .ok ()) :
    hasForbidden value = false := by
  rw [checkRaw] at checked
  split at checked
  · cases checked
  · simpa using ‹¬ hasForbidden value = true›

theorem stamp_allowed (stamp : Stamp) (checked : checkRaw stamp = .ok ()) :
    hasForbidden stamp.shown = false := by
  cases stamp with
  | text value => exact raw_text_allowed value checked
  | other kind => cases checked

namespace Parts

variable (parts : Parts options subject)

include parts

theorem token_allowed : hasForbidden subject.token = false :=
  raw_text_allowed _ (parts.checked _ (by simp [rawTexts]))

theorem process_id_allowed : hasForbidden subject.processId = false :=
  raw_text_allowed _ (parts.checked _ (by simp [rawTexts]))

theorem element_id_allowed (node : Node) (member : node ∈ subject.graph.nodes) :
    hasForbidden node.elementId = false := by
  refine raw_text_allowed _ (parts.checked _ ?_)
  exact List.mem_append_right _ (List.mem_map_of_mem member)

theorem attributes_allowed : ∀ pair ∈ parts.attributes, hasForbidden pair.2 = false := by
  have front : hasForbidden "Definitions_" = false := by decide
  have token := parts.token_allowed
  have first := stamp_allowed _ (parts.checked options.targetNamespace (by simp [rawTexts]))
  have second := stamp_allowed _ (parts.checked options.exporter (by simp [rawTexts]))
  have third := stamp_allowed _ (parts.checked options.exporterVersion (by simp [rawTexts]))
  simp [attributes, plain, forbidden_append, front, token, first, second, third]

end Parts

theorem flow_of_ok (graph : Graph) (token : String) (entry : Edge × Nat) (flow : Flow)
    (found : flowOf graph token entry = .ok flow) :
    ∃ source target, graph.node? entry.1.source = some source ∧
      graph.node? entry.1.target = some target ∧
      flow = ⟨flowId token entry.2, entry.1, source.elementId, target.elementId⟩ := by
  rw [flowOf] at found
  split at found
  · rename_i source target sourceFound targetFound
    exact ⟨source, target, sourceFound, targetFound, (Except.ok.inj found).symm⟩
  · cases found
  · cases found

theorem position_of_ok (diagram : Diagram Float) (node : Node) (shape : Node × Box Float)
    (found : positionOf diagram node = .ok shape) :
    Table.get? node.id diagram.boxes = some shape.2 ∧ shape.1 = node := by
  rw [positionOf] at found
  split at found
  · rename_i box known
    cases Except.ok.inj found
    exact ⟨known, rfl⟩
  · cases found

theorem path_of_ok (diagram : Diagram Float) (entry : Flow × Nat) (edge : Flow × Path)
    (found : pathOf diagram entry = .ok edge) :
    Table.get? (entry.2 : Int) diagram.routes = some edge.2.points ∧ edge.1 = entry.1 := by
  rw [pathOf] at found
  split at found
  · rename_i first second others known
    cases Except.ok.inj found
    exact ⟨known, rfl⟩
  · cases found

def FlowsAllowed (flows : List Flow) : Prop :=
  ∀ flow ∈ flows, hasForbidden flow.id = false ∧ hasForbidden flow.source = false ∧
    hasForbidden flow.target = false

namespace Parts

variable (parts : Parts options subject)

theorem mem_flows (flow : Flow) (member : flow ∈ parts.flows) :
    ∃ entry ∈ subject.graph.edges.zipIdx, flowOf subject.graph subject.token entry = .ok flow := by
  obtain ⟨index, bound, rfl⟩ := List.mem_iff_getElem.mp member
  have bound' : index < subject.graph.edges.zipIdx.length := by
    rw [parts.flowsFound.length_eq]
    exact bound
  exact ⟨_, List.getElem_mem bound', parts.flowsFound.get bound' bound⟩

theorem flows_allowed : FlowsAllowed parts.flows := by
  intro flow member
  obtain ⟨entry, _, found⟩ := parts.mem_flows flow member
  obtain ⟨source, target, sourceFound, targetFound, rfl⟩ := flow_of_ok _ _ _ _ found
  have sourceMember := (Graph.found_member _ _ _ sourceFound).1
  have targetMember := (Graph.found_member _ _ _ targetFound).1
  exact ⟨flow_id_allowed _ _ parts.token_allowed, parts.element_id_allowed _ sourceMember,
    parts.element_id_allowed _ targetMember⟩

theorem flows_edges :
    parts.flows.map (fun flow => (flow.edge, flow.id)) =
      subject.graph.edges.zipIdx.map fun entry => (entry.1, flowId subject.token entry.2) := by
  apply Each.map_same
  refine parts.flowsFound.imp ?_
  intro entry flow found
  obtain ⟨_, _, _, _, rfl⟩ := flow_of_ok _ _ _ _ found
  rfl

theorem shapes_nodes : parts.shapes.map Prod.fst = subject.graph.nodes := by
  have each := parts.shapesFound.imp fun node shape found =>
    (position_of_ok subject.diagram node shape found).2
  rw [Each.map_same id Prod.fst _ _ each, List.map_id]

theorem edges_flows : parts.edges.map Prod.fst = parts.flows := by
  have each := parts.edgesFound.imp fun entry edge found =>
    (path_of_ok subject.diagram entry edge found).2
  rw [Each.map_same Prod.fst Prod.fst _ _ each, List.zipIdx_map_fst]

theorem shape_node (shape : Node × Box Float) (member : shape ∈ parts.shapes) :
    shape.1 ∈ subject.graph.nodes := by
  rw [← parts.shapes_nodes]
  exact List.mem_map_of_mem member

theorem edge_flow (edge : Flow × Path) (member : edge ∈ parts.edges) : edge.1 ∈ parts.flows := by
  rw [← parts.edges_flows]
  exact List.mem_map_of_mem member

theorem flow_joins (flow : Flow) (member : flow ∈ parts.flows) :
    flow.edge ∈ subject.graph.edges ∧
      (∃ node ∈ subject.graph.nodes, node.id = flow.edge.source ∧ flow.source = node.elementId) ∧
      ∃ node ∈ subject.graph.nodes, node.id = flow.edge.target ∧ flow.target = node.elementId := by
  obtain ⟨entry, inside, found⟩ := parts.mem_flows flow member
  obtain ⟨source, target, sourceFound, targetFound, rfl⟩ := flow_of_ok _ _ _ _ found
  obtain ⟨sourceMember, sourceId⟩ := Graph.found_member _ _ _ sourceFound
  obtain ⟨targetMember, targetId⟩ := Graph.found_member _ _ _ targetFound
  exact ⟨List.fst_mem_of_mem_zipIdx inside, ⟨source, sourceMember, sourceId, rfl⟩,
    target, targetMember, targetId, rfl⟩

theorem edge_has_flow (edge : Edge) (member : edge ∈ subject.graph.edges) :
    ∃ flow ∈ parts.flows, flow.edge = edge := by
  obtain ⟨index, known⟩ := List.mem_iff_getElem?.mp member
  have entry : (edge, flowId subject.token index) ∈
      subject.graph.edges.zipIdx.map fun entry => (entry.1, flowId subject.token entry.2) :=
    List.mem_map.mpr ⟨(edge, index), List.mem_zipIdx_iff_getElem?.mpr known, rfl⟩
  rw [← parts.flows_edges] at entry
  obtain ⟨flow, inside, same⟩ := List.mem_map.mp entry
  exact ⟨flow, inside, congrArg Prod.fst same⟩

end Parts

end ProcessDiagram.Document
