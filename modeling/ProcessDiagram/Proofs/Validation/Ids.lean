import ProcessDiagram.Proofs.Validation.Silence

set_option autoImplicit false

namespace ProcessDiagram.Validation

open Document (Parts readBack scope nodeElement flowElement)
open Xml (QualifiedName)

def drawnId (id : String) : String :=
  id ++ "_di"

def documentIds (processId token : String) (graph : Graph) : List String :=
  let parts := graph.nodes.map Node.elementId ++ flowIds token graph
  ("Definitions_" ++ token) :: processId :: parts ++
    ("BPMNDiagram_" ++ token) :: ("BPMNPlane_" ++ token) :: parts.map drawnId

variable {options : Document.Options} {subject : Document.Subject}

theorem ids_of_all (elements : List Element) : idsOfAll elements = elements.flatMap idsOf := by
  induction elements with
  | nil => rfl
  | cons first rest ih => rw [idsOfAll, ih, List.flatMap_cons]

theorem ids_text (value : String) : idsOf (.text value) = [] := by
  simp [idsOf]

theorem ids_read (depth : Option Nat) (name : QualifiedName)
    (attributes : List (QualifiedName × String)) (children : List Document.Element)
    (solid : ∀ child ∈ children, child.isText = false) :
    idsOf (readBack depth (.element name attributes children)) =
      ((Xml.plainAttributes attributes).lookup ⟨"", "id"⟩).toList ++
        children.flatMap fun child => idsOf (readBack (depth.map (· + 1)) child) := by
  rw [readBack, Xml.restored, idsOf, ids_of_all]
  congr 1
  exact Xml.select_spaced idsOf scope depth children solid ids_text

theorem ids_leaf (depth : Option Nat) (name : QualifiedName) (value : String) :
    idsOf (readBack depth (.element name [] [.text value])) = [] := by
  rw [readBack, Xml.restored, Xml.restored_text, idsOf, ids_of_all]
  by_cases empty : value = ""
  · rw [if_pos empty]
    rfl
  · rw [if_neg empty, List.flatMap_singleton, ids_text]
    rfl

theorem ids_documentation (depth : Option Nat) (text : String) :
    (Document.documentationElements options text).flatMap
      (fun child => idsOf (readBack depth child)) = [] := by
  rw [Document.documentationElements]
  split
  · rw [List.flatMap_singleton]
    exact ids_leaf depth _ _
  · rfl

theorem ids_references (depth : Option Nat) (name : String) (flows : List Document.Flow) :
    (flows.map (Document.reference name)).flatMap (fun child => idsOf (readBack depth child)) =
      [] := by
  rw [List.flatMap_map, List.flatMap_eq_nil_iff]
  intro flow _
  exact ids_leaf depth _ _

theorem ids_node (depth : Option Nat) (flows : List Document.Flow) (node : Node) :
    idsOf (readBack depth (nodeElement options flows node)) = [node.elementId] := by
  rw [nodeElement, ids_read depth _ _ _ (node_children_text _ _ _), List.flatMap_append,
    List.flatMap_append, ids_documentation, ids_references, ids_references]
  rfl

theorem ids_flow (depth : Option Nat) (flow : Document.Flow) :
    idsOf (readBack depth (flowElement flow)) = [flow.id] := by
  rw [flowElement, ids_read depth _ _ _ (by simp)]
  rfl

theorem ids_process (depth : Option Nat) (flows : List Document.Flow) :
    idsOf (readBack depth (Document.processElement options subject flows)) =
      subject.processId :: (subject.graph.nodes.map Node.elementId ++
        flows.map Document.Flow.id) := by
  rw [Document.processElement, ids_read depth _ _ _ (process_children_text _),
    List.flatMap_append, List.flatMap_append, ids_documentation, List.flatMap_map,
    List.flatMap_map]
  simp only [ids_node, ids_flow, ← List.map_eq_flatMap]
  rfl

theorem ids_bounds (depth : Option Nat) (bounds : Box Float) :
    idsOf (readBack depth (Document.boundsElement bounds)) = [] := by
  rw [Document.boundsElement, ids_read depth _ _ _ (by simp)]
  rfl

theorem ids_label (depth : Option Nat) (bounds : Box Float) :
    idsOf (readBack depth (Document.labelElement bounds)) = [] := by
  rw [Document.labelElement, ids_read depth _ _ _ (by simp [Document.boundsElement, Xml.Node.isText]),
    List.flatMap_singleton, ids_bounds]
  rfl

theorem ids_shape (depth : Option Nat) (shape : Node × Box Float) :
    idsOf (readBack depth (Document.shapeElement shape)) = [drawnId shape.1.elementId] := by
  rw [Document.shapeElement, ids_read depth _ _ _ (by
    simp [Document.boundsElement, Document.labelElement, Xml.Node.isText])]
  rw [List.flatMap_cons, List.flatMap_singleton, ids_bounds, ids_label]
  rfl

theorem ids_point (depth : Option Nat) (position : Point Float) :
    idsOf (readBack depth (Document.pointElement position)) = [] := by
  rw [Document.pointElement, ids_read depth _ _ _ (by simp)]
  rfl

theorem ids_edge (depth : Option Nat) (edge : Document.Flow × Document.Path) :
    idsOf (readBack depth (Document.edgeElement edge)) = [drawnId edge.1.id] := by
  have labels : ∀ depth, (if edge.1.edge.label?.isSome then
      [Document.labelElement (Document.flowLabel
        (Document.labelAnchor edge.2.first edge.2.second edge.2.others))]
      else []).flatMap (fun child => idsOf (readBack depth child)) = [] := by
    intro depth
    split
    · rw [List.flatMap_singleton, ids_label]
    · rfl
  have points : ∀ depth, (edge.2.points.map Document.pointElement).flatMap
      (fun child => idsOf (readBack depth child)) = [] := by
    intro depth
    rw [List.flatMap_map, List.flatMap_eq_nil_iff]
    intro position _
    exact ids_point depth position
  rw [Document.edgeElement, ids_read depth _ _ _ (edge_children_text _ _), List.flatMap_append,
    points, labels]
  rfl

variable (parts : Parts options subject)

theorem ids_plane (depth : Option Nat) :
    idsOf (planeOf parts depth) = ("BPMNPlane_" ++ subject.token) ::
      (subject.graph.nodes.map Node.elementId ++ parts.flows.map Document.Flow.id).map drawnId := by
  rw [planeOf, ids_read depth _ _ _ (drawn_text parts), List.flatMap_append, List.flatMap_map,
    List.flatMap_map]
  simp only [ids_shape, ids_edge, ← List.map_eq_flatMap]
  rw [← parts.shapes_nodes, ← parts.edges_flows, List.map_append, List.map_map, List.map_map,
    List.map_map, List.map_map]
  rfl

theorem ids_diagram (depth : Option Nat) :
    idsOf (readBack depth (Document.diagramElement subject parts.shapes parts.edges)) =
      ("BPMNDiagram_" ++ subject.token) :: ("BPMNPlane_" ++ subject.token) ::
        (subject.graph.nodes.map Node.elementId ++ parts.flows.map Document.Flow.id).map
          drawnId := by
  rw [Document.diagramElement, ids_read depth _ _ _ (by simp [Xml.Node.isText]),
    List.flatMap_singleton, ← planeOf, ids_plane]
  rfl

theorem ids_restored :
    idsOf parts.restored = documentIds subject.processId subject.token subject.graph := by
  have solid : ∀ child ∈ parts.children, child.isText = false := by
    simp [Parts.children, Document.processElement, Document.diagramElement, Xml.Node.isText]
  have root : idsOf parts.restored = ("Definitions_" ++ subject.token) ::
      parts.children.flatMap fun child => idsOf (readBack (some 1) child) :=
    ids_read (some 0) (Document.model "definitions") parts.attributes parts.children solid
  rw [root, Parts.children, List.flatMap_cons, List.flatMap_singleton, ids_process, ids_diagram,
    flows_ids, documentIds]
  rfl

end ProcessDiagram.Validation
