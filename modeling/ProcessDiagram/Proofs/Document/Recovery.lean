import ProcessDiagram.Proofs.Document.ReadBack

set_option autoImplicit false

namespace ProcessDiagram.Document

open Xml (QualifiedName ExpandedName filterText)

variable {options : Options} {subject : Subject}

theorem documentation_read (depth : Option Nat) (text : String) (rest : List ReadElement)
    (other : ∀ element ∈ rest, isNamed documentationName element = false) :
    readDocumentation? ((documentationElements options text).map (readBack depth) ++ rest) =
      some (documentationText options text, rest) := by
  rw [documentationElements]
  by_cases written : (options.includeDocumentation && text ≠ "") = true
  · have included : options.includeDocumentation = true := by
      simp only [Bool.and_eq_true] at written
      exact written.1
    have found := text_read depth (model "documentation") (filterText text)
    rw [if_pos written, readDocumentation?, leading_split documentationName _ rest _ other]
    · simp only [List.map_cons, List.map_nil]
      change (textIn? documentationName _).map _ = _
      have same : scope.expanded (model "documentation") = documentationName := rfl
      rw [← same, found, documentationText, if_pos included]
      rfl
    · intro element member
      rw [List.map_cons, List.map_nil, List.mem_singleton] at member
      rw [member, named_read]
      rfl
  · have empty : documentationText options text = "" := by
      rw [documentationText]
      split
      · rename_i included
        have blank : text = "" := by simpa [included] using written
        rw [blank]
        rfl
      · rfl
    rw [if_neg written, List.map_nil, readDocumentation?,
      leading_split documentationName [] rest (by simp) other, empty]

theorem documentation_solid (text : String) :
    ∀ child ∈ documentationElements options text, child.name?.isSome := by
  intro child member
  rw [documentationElements] at member
  split at member
  · rw [List.mem_singleton.mp member]
    rfl
  · cases member

theorem kind_read (depth : Option Nat) (kind : NodeKind)
    (attributes : List (QualifiedName × String)) (children : List Element) :
    NodeContents.kind? (readBack depth (.element (model kind.name) attributes children)) =
      some kind := by
  have same : (fun other => isNamed (NodeContents.nameOf other)
      (readBack depth (.element (model kind.name) attributes children))) =
        fun other => decide (scope.expanded (model kind.name) = NodeContents.nameOf other) :=
    funext fun other => named_read depth (model kind.name) _ attributes children
  rw [NodeContents.kind?, same]
  cases kind <;> decide

theorem references_read (depth : Option Nat) (name : String) (flows : List Flow) :
    ((flows.map (reference name)).map (readBack depth)).mapM
      (textIn? (scope.expanded (model name))) = some (flows.map Flow.id) := by
  rw [List.map_map]
  exact Each.map_some _ _ Flow.id flows fun flow _ => text_read depth (model name) flow.id

theorem reference_named (depth : Option Nat) (name : String) (other : ExpandedName)
    (flows : List Flow) :
    ∀ element ∈ (flows.map (reference name)).map (readBack depth),
      isNamed other element = decide (scope.expanded (model name) = other) := by
  intro element member
  rw [List.map_map] at member
  obtain ⟨flow, _, rfl⟩ := List.mem_map.mp member
  exact named_read depth (model name) other [] _

theorem reference_solid (name : String) (flows : List Flow) :
    ∀ child ∈ flows.map (reference name), child.name?.isSome := by
  intro child member
  obtain ⟨flow, _, rfl⟩ := List.mem_map.mp member
  rfl

def nodeChildren (options : Options) (text : String) (ending starting : List Flow) :
    List Element :=
  documentationElements options text ++ ending.map (reference "incoming") ++
    starting.map (reference "outgoing")

theorem node_children_solid (text : String) (ending starting : List Flow) :
    ∀ child ∈ nodeChildren options text ending starting, child.name?.isSome := by
  intro child member
  rw [nodeChildren, List.mem_append, List.mem_append] at member
  rcases member with (documentation | first) | second
  · exact documentation_solid _ child documentation
  · exact reference_solid _ _ child first
  · exact reference_solid _ _ child second

theorem node_children_read (options : Options) (depth : Option Nat) (text : String)
    (ending starting : List Flow) :
    ∃ references incoming outgoing,
      readDocumentation? ((nodeChildren options text ending starting).map (readBack depth)) =
        some (documentationText options text, references) ∧
      leading NodeContents.incomingName references = (incoming, outgoing) ∧
      incoming.mapM (textIn? NodeContents.incomingName) = some (ending.map Flow.id) ∧
      outgoing.mapM (textIn? NodeContents.outgoingName) = some (starting.map Flow.id) := by
  refine ⟨(ending.map (reference "incoming")).map (readBack depth) ++
      (starting.map (reference "outgoing")).map (readBack depth), _, _, ?_, ?_,
    references_read depth "incoming" ending, references_read depth "outgoing" starting⟩
  · rw [nodeChildren, List.append_assoc, List.map_append, List.map_append]
    apply documentation_read
    intro element member
    rcases List.mem_append.mp member with first | second
    · exact reference_named _ _ _ _ element first
    · exact reference_named _ _ _ _ element second
  · exact leading_split _ _ _ (fun element member => reference_named _ _ _ _ element member)
      (fun element member => reference_named _ _ _ _ element member)

namespace Parts

variable (parts : Parts options subject)

theorem chosen_flows (chosen : Edge → Bool) :
    (parts.flows.filter fun flow => chosen flow.edge).map Flow.id =
      NodeContents.flowIds subject chosen := by
  have same := congrArg (fun pairs => (pairs.filter fun pair : Edge × String => chosen pair.1).map
    Prod.snd) parts.flows_edges
  simp only [List.filter_map, List.map_map] at same
  exact same

theorem node_read (depth : Option Nat) (node : Node) :
    NodeContents.read? (readBack depth (nodeElement options parts.flows node)) =
      some (NodeContents.ofNode options subject node) := by
  have tag : isTag (model node.kind.name) ["id", "name"] := by
    cases node.kind <;> decide
  have ending := parts.chosen_flows fun edge => edge.target = node.id
  have starting := parts.chosen_flows fun edge => edge.source = node.id
  have values : values? (NodeContents.nameOf node.kind) ["id", "name"]
      (readBack depth (nodeElement options parts.flows node)) =
        some [node.elementId, filterText node.label] :=
    values_read depth (model node.kind.name) ["id", "name"] _ _ tag rfl
  have kind : NodeContents.kind? (readBack depth (nodeElement options parts.flows node)) =
      some node.kind := kind_read depth node.kind _ _
  have elements : elements? (readBack depth (nodeElement options parts.flows node)) =
      some ((nodeChildren options node.documentation
        (parts.flows.filter fun flow => flow.edge.target = node.id)
        (parts.flows.filter fun flow => flow.edge.source = node.id)).map
          (readBack (depth.map (· + 1)))) :=
    elements_read depth (model node.kind.name) _ _ (node_children_solid _ _ _)
  obtain ⟨_, _, _, documentation, references, first, second⟩ := node_children_read
    options (depth.map (· + 1)) node.documentation
    (parts.flows.filter fun flow => flow.edge.target = node.id)
    (parts.flows.filter fun flow => flow.edge.source = node.id)
  rw [NodeContents.read?, kind]
  simp only [Option.bind_eq_bind, Option.bind_some, values, elements, documentation, references,
    first, second, ending, starting]
  rfl

end Parts

def FlowContents.ofFlow (flow : Flow) : FlowContents :=
  ⟨flow.id, flow.source, flow.target, flow.edge.label?.map filterText⟩

theorem flow_read (depth : Option Nat) (flow : Flow) :
    FlowContents.read? (readBack depth (flowElement flow)) = some (.ofFlow flow) := by
  obtain ⟨id, edge, source, target⟩ := flow
  rw [flowElement, FlowContents.ofFlow]
  cases labelled : edge.label? with
  | none =>
      have values : values? FlowContents.flowName ["id", "sourceRef", "targetRef"] (readBack depth
          (.element (model "sequenceFlow")
            [plain "id" id, plain "sourceRef" source, plain "targetRef" target] [])) =
          some [id, source, target] :=
        values_read depth (model "sequenceFlow") _ _ _ (by decide) rfl
      simp only [FlowContents.read?, Option.map_none, Option.toList_none, List.append_nil, values]
  | some label =>
      have values : values? FlowContents.flowName ["id", "sourceRef", "targetRef", "name"]
          (readBack depth (.element (model "sequenceFlow")
            [plain "id" id, plain "sourceRef" source, plain "targetRef" target,
              plain "name" (filterText label)] [])) =
          some [id, source, target, filterText label] :=
        values_read depth (model "sequenceFlow") _ _ _ (by decide) rfl
      have other := values_other _ _ ["id", "sourceRef", "targetRef"] _ _ values (by decide)
      simp only [FlowContents.read?, Option.map_some, Option.toList_some, List.cons_append,
        List.nil_append, values, other]

theorem Parts.flows_contents (parts : Parts options subject) :
    subject.graph.edges.zipIdx.mapM (FlowContents.ofEdge? subject) =
      some (parts.flows.map FlowContents.ofFlow) := by
  apply Each.all_some
  rw [List.forall₂_map_right_iff]
  refine parts.flowsFound.imp ?_
  intro entry flow found
  obtain ⟨source, target, sourceFound, targetFound, rfl⟩ := flow_of_ok _ _ _ _ found
  rw [FlowContents.ofEdge?, sourceFound, targetFound]
  rfl

theorem bounds_read (depth : Option Nat) (bounds : Box Float) :
    BoundsContents.read? (readBack depth (boundsElement bounds)) = some (.ofBox bounds) := by
  have values : values? ⟨boxSpace, "Bounds"⟩ ["x", "y", "width", "height"]
      (readBack depth (boundsElement bounds)) =
        some [coordinateText bounds.x, coordinateText bounds.y, coordinateText bounds.width,
          coordinateText bounds.height] :=
    values_read depth (box "Bounds") _ _ _ (by decide) rfl
  rw [BoundsContents.read?, values]
  rfl

theorem label_read (depth : Option Nat) (bounds : Box Float) :
    BoundsContents.readLabel? (readBack depth (labelElement bounds)) = some (.ofBox bounds) := by
  have values : values? ⟨diagramSpace, "BPMNLabel"⟩ [] (readBack depth (labelElement bounds)) =
      some [] := values_read depth (diagram "BPMNLabel") _ _ _ (by decide) rfl
  have elements : elements? (readBack depth (labelElement bounds)) =
      some [readBack (depth.map (· + 1)) (boundsElement bounds)] :=
    elements_read depth (diagram "BPMNLabel") [] [boundsElement bounds]
      (by simp [boundsElement, Xml.Node.name?])
  rw [BoundsContents.readLabel?, values, elements]
  exact bounds_read (depth.map (· + 1)) bounds

theorem point_read (depth : Option Nat) (position : Point Float) :
    readPoint? (readBack depth (pointElement position)) = some (pointTexts position) := by
  have values : values? waypointName ["x", "y"] (readBack depth (pointElement position)) =
      some [coordinateText position.x, coordinateText position.y] :=
    values_read depth (point "waypoint") _ _ _ (by decide) rfl
  rw [readPoint?, values]
  rfl

def ShapeContents.ofShape (entry : Node × Box Float) : ShapeContents where
  id := entry.1.elementId ++ "_di"
  element := entry.1.elementId
  marker := if entry.1.kind = .exclusiveGateway then some "true" else none
  bounds := .ofBox entry.2
  label := .ofBox (nodeLabel entry.1.kind entry.2)

theorem shape_read (depth : Option Nat) (entry : Node × Box Float) :
    ShapeContents.read? (readBack depth (shapeElement entry)) = some (.ofShape entry) := by
  obtain ⟨node, bounds⟩ := entry
  have elements : elements? (readBack depth (shapeElement (node, bounds))) =
      some [readBack (depth.map (· + 1)) (boundsElement bounds),
        readBack (depth.map (· + 1)) (labelElement (nodeLabel node.kind bounds))] :=
    elements_read depth (diagram "BPMNShape") _
      [boundsElement bounds, labelElement (nodeLabel node.kind bounds)]
      (by simp [boundsElement, labelElement, Xml.Node.name?])
  rw [ShapeContents.read?, elements, ShapeContents.ofShape]
  by_cases marked : node.kind = .exclusiveGateway
  · have values : values? ShapeContents.shapeName ["id", "bpmnElement", "isMarkerVisible"]
        (readBack depth (shapeElement (node, bounds))) =
          some [node.elementId ++ "_di", node.elementId, "true"] := by
      rw [shapeElement, if_pos marked]
      exact values_read depth (diagram "BPMNShape") _ _ _ (by decide) rfl
    have other := values_other _ _ ["id", "bpmnElement"] _ _ values (by decide)
    simp only [values, other, Option.bind_eq_bind, Option.bind_some, bounds_read, label_read,
      if_pos marked]
  · have values : values? ShapeContents.shapeName ["id", "bpmnElement"]
        (readBack depth (shapeElement (node, bounds))) =
          some [node.elementId ++ "_di", node.elementId] := by
      rw [shapeElement, if_neg marked]
      exact values_read depth (diagram "BPMNShape") _ _ _ (by decide) rfl
    simp only [values, Option.bind_eq_bind, Option.bind_some, bounds_read, label_read,
      if_neg marked]

theorem Parts.shapes_contents (parts : Parts options subject) :
    subject.graph.nodes.mapM (ShapeContents.ofNode? subject) =
      some (parts.shapes.map ShapeContents.ofShape) := by
  apply Each.all_some
  rw [List.forall₂_map_right_iff]
  refine parts.shapesFound.imp ?_
  intro node shape found
  obtain ⟨known, rfl⟩ := position_of_ok _ _ _ found
  rw [ShapeContents.ofNode?, known]
  rfl

def EdgeContents.ofPath (entry : Flow × Path) : EdgeContents where
  id := entry.1.id ++ "_di"
  element := entry.1.id
  points := entry.2.points.map pointTexts
  label := entry.1.edge.label?.map fun _ =>
    .ofBox (flowLabel (labelAnchor entry.2.first entry.2.second entry.2.others))

def edgeLabels (flow : Flow) (path : Path) : List Element :=
  if flow.edge.label?.isSome then
    [labelElement (flowLabel (labelAnchor path.first path.second path.others))]
  else []

theorem edge_labels_read (depth : Option Nat) (flow : Flow) (path : Path) :
    EdgeContents.readLabel? ((edgeLabels flow path).map (readBack depth)) =
      some (EdgeContents.ofPath (flow, path)).label := by
  rw [edgeLabels, EdgeContents.ofPath]
  cases flow.edge.label? with
  | none => rfl
  | some label =>
      simp only [Option.isSome_some, if_true, List.map_cons, List.map_nil, EdgeContents.readLabel?,
        label_read, Option.map_some]

theorem mem_edge_labels (flow : Flow) (path : Path) (element : Element)
    (member : element ∈ edgeLabels flow path) : ∃ bounds, element = labelElement bounds := by
  rw [edgeLabels] at member
  split at member
  · exact ⟨_, List.mem_singleton.mp member⟩
  · cases member

theorem edge_elements (depth : Option Nat) (flow : Flow) (path : Path) :
    elements? (readBack depth (edgeElement (flow, path))) =
      some ((path.points.map pointElement).map (readBack (depth.map (· + 1))) ++
        (edgeLabels flow path).map (readBack (depth.map (· + 1)))) := by
  have solid : ∀ child ∈ path.points.map pointElement ++ edgeLabels flow path,
      child.name?.isSome := by
    intro child member
    rcases List.mem_append.mp member with position | label
    · obtain ⟨_, _, rfl⟩ := List.mem_map.mp position
      rfl
    · obtain ⟨_, rfl⟩ := mem_edge_labels flow path child label
      rfl
  rw [← List.map_append]
  exact elements_read depth (diagram "BPMNEdge") _ _ solid

theorem edge_split (depth : Option Nat) (flow : Flow) (path : Path) :
    leading waypointName ((path.points.map pointElement).map (readBack depth) ++
      (edgeLabels flow path).map (readBack depth)) =
        ((path.points.map pointElement).map (readBack depth),
          (edgeLabels flow path).map (readBack depth)) := by
  apply leading_split
  · intro element member
    rw [List.map_map] at member
    obtain ⟨position, _, rfl⟩ := List.mem_map.mp member
    exact named_read _ (point "waypoint") waypointName _ []
  · intro element member
    obtain ⟨label, inside, rfl⟩ := List.mem_map.mp member
    obtain ⟨bounds, rfl⟩ := mem_edge_labels flow path label inside
    exact named_read _ (diagram "BPMNLabel") waypointName [] _

theorem edge_read (depth : Option Nat) (entry : Flow × Path) :
    EdgeContents.read? (readBack depth (edgeElement entry)) = some (.ofPath entry) := by
  obtain ⟨flow, path⟩ := entry
  have values : values? EdgeContents.edgeName ["id", "bpmnElement"]
      (readBack depth (edgeElement (flow, path))) = some [flow.id ++ "_di", flow.id] :=
    values_read depth (diagram "BPMNEdge") _ _ _ (by decide) rfl
  have points : ((path.points.map pointElement).map (readBack (depth.map (· + 1)))).mapM
      readPoint? = some (path.points.map pointTexts) := by
    rw [List.map_map]
    exact Each.map_some _ _ pointTexts path.points fun position _ => point_read _ position
  rw [EdgeContents.read?, values, edge_elements]
  simp only [Option.bind_eq_bind, Option.bind_some, edge_split, points, edge_labels_read]
  rfl

theorem Parts.edges_contents (parts : Parts options subject) :
    subject.graph.edges.zipIdx.mapM (EdgeContents.ofEdge? subject) =
      some (parts.edges.map EdgeContents.ofPath) := by
  have one := parts.flowsFound.length_eq
  have two := parts.edgesFound.length_eq
  rw [List.length_zipIdx] at two
  apply Each.all_some
  rw [List.forall₂_map_right_iff]
  apply List.forall₂_of_length_eq_of_get (one.trans two)
  intro index bound routed
  have flowBound : index < parts.flows.length := one ▸ bound
  have zipBound : index < parts.flows.zipIdx.length := by
    rw [List.length_zipIdx]
    exact flowBound
  have found := parts.flowsFound.get bound flowBound
  have path := parts.edgesFound.get zipBound routed
  obtain ⟨_, _, _, _, shape⟩ := flow_of_ok _ _ _ _ found
  obtain ⟨known, flow⟩ := path_of_ok _ _ _ path
  simp only [List.get_eq_getElem, List.getElem_zipIdx, Nat.zero_add] at known flow shape ⊢
  rw [EdgeContents.ofEdge?, known, EdgeContents.ofPath, flow, shape]
  rfl

theorem flow_kind (depth : Option Nat) (flow : Flow) :
    NodeContents.kind? (readBack depth (flowElement flow)) = none := by
  have same : (fun kind => isNamed (NodeContents.nameOf kind)
      (readBack depth (flowElement flow))) =
        fun kind => decide (scope.expanded (model "sequenceFlow") = NodeContents.nameOf kind) :=
    funext fun kind => named_read depth (model "sequenceFlow") _ _ []
  rw [NodeContents.kind?, same]
  decide

namespace Parts

variable (parts : Parts options subject)

def connected : List Element :=
  subject.graph.nodes.map (nodeElement options parts.flows) ++ parts.flows.map flowElement

theorem mem_connected (element : Element) (member : element ∈ parts.connected) :
    (∃ node, element = nodeElement options parts.flows node) ∨
      ∃ flow, element = flowElement flow := by
  rcases List.mem_append.mp member with inNodes | inFlows
  · obtain ⟨node, _, rfl⟩ := List.mem_map.mp inNodes
    exact .inl ⟨node, rfl⟩
  · obtain ⟨flow, _, rfl⟩ := List.mem_map.mp inFlows
    exact .inr ⟨flow, rfl⟩

theorem process_children_solid :
    ∀ child ∈ documentationElements options subject.documentation ++ parts.connected,
      child.name?.isSome := by
  intro child member
  rcases List.mem_append.mp member with documentation | inside
  · exact documentation_solid _ child documentation
  · rcases parts.mem_connected child inside with ⟨node, rfl⟩ | ⟨flow, rfl⟩ <;> rfl

theorem process_documentation_read (depth : Option Nat) :
    readDocumentation? ((documentationElements options subject.documentation ++
      parts.connected).map (readBack depth)) =
        some (documentationText options subject.documentation,
          parts.connected.map (readBack depth)) := by
  rw [List.map_append]
  apply documentation_read
  intro element member
  obtain ⟨child, inside, rfl⟩ := List.mem_map.mp member
  rcases parts.mem_connected child inside with ⟨node, rfl⟩ | ⟨flow, rfl⟩
  · rw [nodeElement, named_read]
    cases node.kind <;> rfl
  · exact named_read depth (model "sequenceFlow") documentationName _ []

theorem nodes_read (depth : Option Nat) :
    ((subject.graph.nodes.map (nodeElement options parts.flows)).map (readBack depth)).mapM
      NodeContents.read? = some (subject.graph.nodes.map (NodeContents.ofNode options subject)) := by
  rw [List.map_map]
  exact Each.map_some _ _ _ _ fun node _ => parts.node_read depth node

theorem flows_read (depth : Option Nat) :
    ((parts.flows.map flowElement).map (readBack depth)).mapM FlowContents.read? =
      some (parts.flows.map FlowContents.ofFlow) := by
  rw [List.map_map]
  exact Each.map_some _ _ _ _ fun flow _ => flow_read depth flow

theorem connected_split (depth : Option Nat) :
    (parts.connected.map (readBack depth)).takeWhile
        (fun element => (NodeContents.kind? element).isSome) =
      (subject.graph.nodes.map (nodeElement options parts.flows)).map (readBack depth) ∧
    (parts.connected.map (readBack depth)).dropWhile
        (fun element => (NodeContents.kind? element).isSome) =
      (parts.flows.map flowElement).map (readBack depth) := by
  rw [connected, List.map_append]
  apply split_where
  · intro element member
    rw [List.map_map] at member
    obtain ⟨node, _, rfl⟩ := List.mem_map.mp member
    exact Option.isSome_of_eq_some (kind_read depth node.kind _ _)
  · intro element member
    rw [List.map_map] at member
    obtain ⟨flow, _, rfl⟩ := List.mem_map.mp member
    rw [Function.comp_apply, flow_kind]
    rfl

theorem process_read (depth : Option Nat) :
    ProcessContents.read? (readBack depth (processElement options subject parts.flows)) =
      ProcessContents.ofSubject? options subject := by
  have values : values? ⟨modelSpace, "process"⟩ ["id", "name", "isExecutable"]
      (readBack depth (processElement options subject parts.flows)) =
        some [subject.processId, filterText subject.name, "false"] :=
    values_read depth (model "process") _ _ _ (by decide) rfl
  have elements : elements? (readBack depth (processElement options subject parts.flows)) =
      some ((documentationElements options subject.documentation ++ parts.connected).map
        (readBack (depth.map (· + 1)))) := by
    rw [processElement, List.append_assoc]
    exact elements_read depth (model "process") _ _ parts.process_children_solid
  have documentation := parts.process_documentation_read (depth.map (· + 1))
  obtain ⟨nodes, flows⟩ := parts.connected_split (depth.map (· + 1))
  rw [ProcessContents.read?, values, elements]
  simp only [Option.bind_eq_bind, Option.bind_some, documentation, nodes, flows, nodes_read,
    flows_read, ProcessContents.ofSubject?, parts.flows_contents]

def drawn : List Element :=
  parts.shapes.map shapeElement ++ parts.edges.map edgeElement

theorem drawn_solid : ∀ child ∈ parts.drawn, child.name?.isSome := by
  intro child member
  rcases List.mem_append.mp member with shape | edge
  · obtain ⟨shape, _, rfl⟩ := List.mem_map.mp shape
    rfl
  · obtain ⟨edge, _, rfl⟩ := List.mem_map.mp edge
    rfl

theorem drawn_split (depth : Option Nat) :
    leading ShapeContents.shapeName (parts.drawn.map (readBack depth)) =
      ((parts.shapes.map shapeElement).map (readBack depth),
        (parts.edges.map edgeElement).map (readBack depth)) := by
  rw [drawn, List.map_append]
  apply leading_split
  · intro element member
    rw [List.map_map] at member
    obtain ⟨shape, _, rfl⟩ := List.mem_map.mp member
    exact named_read depth (diagram "BPMNShape") ShapeContents.shapeName _ _
  · intro element member
    rw [List.map_map] at member
    obtain ⟨edge, _, rfl⟩ := List.mem_map.mp member
    exact named_read depth (diagram "BPMNEdge") ShapeContents.shapeName _ _

theorem shapes_read (depth : Option Nat) :
    ((parts.shapes.map shapeElement).map (readBack depth)).mapM ShapeContents.read? =
      some (parts.shapes.map ShapeContents.ofShape) := by
  rw [List.map_map]
  exact Each.map_some _ _ _ _ fun shape _ => shape_read depth shape

theorem edges_read (depth : Option Nat) :
    ((parts.edges.map edgeElement).map (readBack depth)).mapM EdgeContents.read? =
      some (parts.edges.map EdgeContents.ofPath) := by
  rw [List.map_map]
  exact Each.map_some _ _ _ _ fun edge _ => edge_read depth edge

def planeElement : Element :=
  .element (diagram "BPMNPlane")
    [plain "id" ("BPMNPlane_" ++ subject.token), plain "bpmnElement" subject.processId] parts.drawn

theorem diagram_read (depth : Option Nat) :
    DiagramContents.read? (readBack depth (diagramElement subject parts.shapes parts.edges)) =
      DiagramContents.ofSubject? subject := by
  have values : values? ⟨diagramSpace, "BPMNDiagram"⟩ ["id"]
      (readBack depth (diagramElement subject parts.shapes parts.edges)) =
        some ["BPMNDiagram_" ++ subject.token] :=
    values_read depth (diagram "BPMNDiagram") _ _ _ (by decide) rfl
  have elements : elements? (readBack depth (diagramElement subject parts.shapes parts.edges)) =
      some [readBack (depth.map (· + 1)) parts.planeElement] :=
    elements_read depth (diagram "BPMNDiagram") _ [parts.planeElement]
      (by simp [planeElement, Xml.Node.name?])
  have planeValues : values? ⟨diagramSpace, "BPMNPlane"⟩ ["id", "bpmnElement"]
      (readBack (depth.map (· + 1)) parts.planeElement) =
        some ["BPMNPlane_" ++ subject.token, subject.processId] :=
    values_read _ (diagram "BPMNPlane") _ _ _ (by decide) rfl
  have planeElements : elements? (readBack (depth.map (· + 1)) parts.planeElement) =
      some (parts.drawn.map (readBack ((depth.map (· + 1)).map (· + 1)))) :=
    elements_read _ (diagram "BPMNPlane") _ _ parts.drawn_solid
  rw [DiagramContents.read?, values, elements]
  simp only [Option.bind_eq_bind, Option.bind_some, planeValues, planeElements, drawn_split,
    shapes_read, edges_read, DiagramContents.ofSubject?, parts.shapes_contents,
    parts.edges_contents]

theorem contents_read :
    Contents.read? parts.restored = Contents.ofSubject? options subject := by
  have unqualified := parts.root_legible.unqualified
  have values : values? ⟨modelSpace, "definitions"⟩
      ["id", "targetNamespace", "exporter", "exporterVersion"] parts.restored =
        some ["Definitions_" ++ subject.token, options.targetNamespace.shown,
          options.exporter.shown, options.exporterVersion.shown] :=
    values_read (some 0) (model "definitions") _ parts.attributes parts.children (by decide) rfl
  have elements : elements? parts.restored = some
      [readBack (some 1) (processElement options subject parts.flows),
        readBack (some 1) (diagramElement subject parts.shapes parts.edges)] :=
    elements_read (some 0) (model "definitions") parts.attributes parts.children
      (by simp [children, processElement, diagramElement, Xml.Node.name?])
  rw [Contents.read?, values, elements]
  simp only [Option.bind_eq_bind, Option.bind_some, process_read, diagram_read,
    Contents.ofSubject?]

end Parts

/-- A written document is read, and tells exactly what its subject holds. -/
theorem written_contents_recovered (options : Options) (subject : Subject) (text : String)
    (written : write options subject = .ok text) :
    ∃ root contents, Xml.read text = some root ∧
      Contents.ofSubject? options subject = some contents ∧
        Contents.read? root = some contents := by
  obtain ⟨parts, read⟩ := read_written text written
  have told := parts.contents_read
  have held : (Contents.ofSubject? options subject).isSome := by
    simp only [Contents.ofSubject?, ProcessContents.ofSubject?, DiagramContents.ofSubject?,
      parts.flows_contents, parts.shapes_contents, parts.edges_contents]
    rfl
  obtain ⟨contents, known⟩ := Option.isSome_iff_exists.mp held
  exact ⟨parts.restored, contents, read, known, told.trans known⟩

/-- Two nodes with a flow between them, and texts with all kinds of marks. -/
def markedSubject : Subject where
  processId := "Process_0"
  token := "0"
  name := "\"A\" & <B>"
  documentation := "first\r\nsecond"
  graph := {
    nodes := [
      { id := "a", elementId := "A", kind := .startEvent, label := "tab\tline\n" },
      { id := "b", elementId := "B", kind := .endEvent, documentation := " a < b " }]
    edges := [{ source := "a", target := "b", condition := some "x > y" }] }
  diagram := {
    strategy := .linear
    boxes := [("a", ⟨0, 0, 36, 36⟩), ("b", ⟨200, 0, 36, 36⟩)]
    routes := [(0, [⟨36, 18⟩, ⟨200, 18⟩])] }

theorem marked_contents_recovered :
    ∃ text root contents, write {} markedSubject = .ok text ∧ Xml.read text = some root ∧
      Contents.ofSubject? {} markedSubject = some contents ∧
        Contents.read? root = some contents := by
  have written : ∃ text, write {} markedSubject = .ok text := ⟨_, rfl⟩
  obtain ⟨text, written⟩ := written
  obtain ⟨root, contents, found⟩ := written_contents_recovered {} markedSubject text written
  exact ⟨text, root, contents, written, found⟩

end ProcessDiagram.Document
