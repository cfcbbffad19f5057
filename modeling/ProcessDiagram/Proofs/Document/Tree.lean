import ProcessDiagram.Proofs.Document.Parts
import ProcessDiagram.Proofs.Xml.RoundTrip

set_option autoImplicit false

namespace ProcessDiagram.Document

open Xml (QualifiedName filterText hasForbidden LegibleTag Tidy)

variable {options : Options} {subject : Subject}

def scope : Xml.Scope := Xml.Scope.initial.extend spaces

def isTag (name : QualifiedName) (keys : List String) : Bool :=
  name.isPlain && decide (name.qualifier ≠ "") &&
    (Table.get? name.qualifier scope).any (fun space => decide (space ≠ "")) &&
    keys.all (fun key => Xml.isUnqualified ⟨"", key⟩) && decide keys.Nodup

theorem tag_legible (name : QualifiedName) (keys : List String)
    (attributes : List (QualifiedName × String)) (known : isTag name keys)
    (names : attributes.map Prod.fst = keys.map (⟨"", ·⟩))
    (allowed : ∀ pair ∈ attributes, hasForbidden pair.2 = false) :
    LegibleTag scope name attributes := by
  simp only [isTag, Bool.and_eq_true, decide_eq_true_eq, List.all_eq_true, Option.any_eq_true]
    at known
  obtain ⟨⟨⟨⟨plain, qualified⟩, space⟩, unqualified⟩, distinct⟩ := known
  refine ⟨plain, qualified, space, ?_, ?_, allowed⟩
  · intro pair member
    have named : pair.1 ∈ keys.map (⟨"", ·⟩) := names ▸ List.mem_map_of_mem member
    obtain ⟨key, inside, same⟩ := List.mem_map.mp named
    rw [← same]
    exact unqualified key inside
  · rw [names]
    exact distinct.map fun first second same => (QualifiedName.mk.inj same).2

theorem tidy_leaf (height : Nat) (name : QualifiedName) (value : String) (known : isTag name [])
    (allowed : hasForbidden value = false) :
    Tidy scope (height + 1) (.element name [] [.text value]) :=
  .leaf height name [] value (tag_legible name [] [] known rfl (by simp)) allowed

theorem tidy_documentation (height : Nat) (text : String) :
    ∀ child ∈ documentationElements options text, Tidy scope (height + 1) child := by
  intro child member
  rw [documentationElements] at member
  split at member
  · rw [List.mem_singleton.mp member]
    exact tidy_leaf height _ _ (by decide) (forbidden_filtered text)
  · cases member

theorem tidy_node (height : Nat) (flows : List Flow) (node : Node) (clean : FlowsAllowed flows)
    (id : hasForbidden node.elementId = false) :
    Tidy scope (height + 2) (nodeElement options flows node) := by
  have tag : isTag (model node.kind.name) ["id", "name"] := by
    cases node.kind <;> decide
  refine .branch (height + 1) _ _ _ (tag_legible _ _ _ tag rfl ?_) ?_
  · simp [plain, id, forbidden_filtered]
  · intro child member
    rw [List.mem_append, List.mem_append] at member
    rcases member with (documentation | incoming) | outgoing
    · exact tidy_documentation height _ child documentation
    · obtain ⟨flow, chosen, rfl⟩ := List.mem_map.mp incoming
      have known := clean flow (List.mem_filter.mp chosen).1
      exact tidy_leaf height _ _ (by decide) known.1
    · obtain ⟨flow, chosen, rfl⟩ := List.mem_map.mp outgoing
      have known := clean flow (List.mem_filter.mp chosen).1
      exact tidy_leaf height _ _ (by decide) known.1

theorem tidy_flow (height : Nat) (flow : Flow) (id : hasForbidden flow.id = false)
    (source : hasForbidden flow.source = false) (target : hasForbidden flow.target = false) :
    Tidy scope (height + 1) (flowElement flow) := by
  refine .branch height _ _ _ ?_ (by simp)
  cases flow.edge.label? with
  | none =>
      refine tag_legible _ ["id", "sourceRef", "targetRef"] _ (by decide) rfl ?_
      simp [plain, id, source, target]
  | some label =>
      refine tag_legible _ ["id", "sourceRef", "targetRef", "name"] _ (by decide) rfl ?_
      simp [plain, id, source, target, forbidden_filtered]

theorem tidy_process (flows : List Flow) (clean : FlowsAllowed flows)
    (id : hasForbidden subject.processId = false)
    (nodes : ∀ node ∈ subject.graph.nodes, hasForbidden node.elementId = false) :
    Tidy scope 5 (processElement options subject flows) := by
  refine .branch 4 _ _ _ (tag_legible _ ["id", "name", "isExecutable"] _ (by decide) rfl ?_) ?_
  · have fixed : hasForbidden "false" = false := by decide
    simp [plain, id, forbidden_filtered, fixed]
  · intro child member
    rw [List.mem_append, List.mem_append] at member
    rcases member with (documentation | nodeMember) | flowMember
    · exact tidy_documentation 3 _ child documentation
    · obtain ⟨node, inside, rfl⟩ := List.mem_map.mp nodeMember
      exact tidy_node 2 flows node clean (nodes node inside)
    · obtain ⟨flow, inside, rfl⟩ := List.mem_map.mp flowMember
      obtain ⟨id, source, target⟩ := clean flow inside
      exact tidy_flow 3 flow id source target

theorem tidy_bounds (height : Nat) (bounds : Box Float) :
    Tidy scope (height + 1) (boundsElement bounds) := by
  refine .branch height _ _ _ (tag_legible _ ["x", "y", "width", "height"] _ (by decide) rfl ?_)
    (by simp)
  simp [plain, coordinate_allowed]

theorem tidy_label (height : Nat) (bounds : Box Float) :
    Tidy scope (height + 2) (labelElement bounds) := by
  refine .branch (height + 1) _ _ _ (tag_legible _ [] _ (by decide) rfl (by simp)) ?_
  simpa using tidy_bounds height bounds

theorem shape_id_allowed (id : String) (allowed : hasForbidden id = false) :
    hasForbidden (id ++ "_di") = false := by
  have back : hasForbidden "_di" = false := by decide
  rw [forbidden_append, allowed, back]
  rfl

theorem tidy_shape (height : Nat) (entry : Node × Box Float)
    (id : hasForbidden entry.1.elementId = false) :
    Tidy scope (height + 3) (shapeElement entry) := by
  have shapeId := shape_id_allowed _ id
  refine .branch (height + 2) _ _ _ ?_ ?_
  · by_cases marked : entry.1.kind = .exclusiveGateway
    · rw [if_pos marked]
      refine tag_legible _ ["id", "bpmnElement", "isMarkerVisible"] _ (by decide) rfl ?_
      have fixed : hasForbidden "true" = false := by decide
      simp [plain, id, shapeId, fixed]
    · rw [if_neg marked]
      refine tag_legible _ ["id", "bpmnElement"] _ (by decide) rfl ?_
      simp [plain, id, shapeId]
  · intro child member
    rcases List.mem_cons.mp member with rfl | label
    · exact tidy_bounds (height + 1) _
    · rw [List.mem_singleton.mp label]
      exact tidy_label height _

theorem tidy_point (height : Nat) (position : Point Float) :
    Tidy scope (height + 1) (pointElement position) := by
  refine .branch height _ _ _ (tag_legible _ ["x", "y"] _ (by decide) rfl ?_) (by simp)
  simp [plain, coordinate_allowed]

theorem tidy_edge (height : Nat) (entry : Flow × Path)
    (id : hasForbidden entry.1.id = false) : Tidy scope (height + 3) (edgeElement entry) := by
  have edgeId := shape_id_allowed _ id
  refine .branch (height + 2) _ _ _ (tag_legible _ ["id", "bpmnElement"] _ (by decide) rfl ?_) ?_
  · simp [plain, id, edgeId]
  · intro child member
    rcases List.mem_append.mp member with point | label
    · obtain ⟨position, _, rfl⟩ := List.mem_map.mp point
      exact tidy_point (height + 1) position
    · split at label
      · rw [List.mem_singleton.mp label]
        exact tidy_label height _
      · cases label

theorem tidy_diagram (shapes : List (Node × Box Float)) (edges : List (Flow × Path))
    (token : hasForbidden subject.token = false) (id : hasForbidden subject.processId = false)
    (nodes : ∀ shape ∈ shapes, hasForbidden shape.1.elementId = false)
    (flows : ∀ edge ∈ edges, hasForbidden edge.1.id = false) :
    Tidy scope 5 (diagramElement subject shapes edges) := by
  have diagramId : hasForbidden ("BPMNDiagram_" ++ subject.token) = false := by
    have front : hasForbidden "BPMNDiagram_" = false := by decide
    rw [forbidden_append, front, token]
    rfl
  have planeId : hasForbidden ("BPMNPlane_" ++ subject.token) = false := by
    have front : hasForbidden "BPMNPlane_" = false := by decide
    rw [forbidden_append, front, token]
    rfl
  refine .branch 4 _ _ _ (tag_legible _ ["id"] _ (by decide) rfl (by simp [plain, diagramId])) ?_
  intro plane only
  rw [List.mem_singleton.mp only]
  refine .branch 3 _ _ _ (tag_legible _ ["id", "bpmnElement"] _ (by decide) rfl ?_) ?_
  · simp [plain, planeId, id]
  · intro child member
    rcases List.mem_append.mp member with shapeMember | edgeMember
    · obtain ⟨shape, inside, rfl⟩ := List.mem_map.mp shapeMember
      exact tidy_shape 0 shape (nodes shape inside)
    · obtain ⟨edge, inside, rfl⟩ := List.mem_map.mp edgeMember
      exact tidy_edge 0 edge (flows edge inside)

theorem read_declaration (place : Xml.Surroundings) (inner : Xml.Scope) (qualifier space : String)
    (rest : List Xml.RawAttribute) (plain : (⟨"xmlns", qualifier⟩ : QualifiedName).isPlain)
    (declares : Xml.Reading.declareSpace inner qualifier space = pure (inner ++ [(qualifier, space)])) :
    Xml.Reading.readWritten place [] inner (Xml.rawAttribute (⟨"xmlns", qualifier⟩, space) :: rest) =
      Xml.Reading.readWritten place [] (inner ++ [(qualifier, space)]) rest := by
  rw [Xml.Reading.read_written_one place inner _ rest plain (by simp)]
  have declared : Xml.declared? ⟨"xmlns", qualifier⟩ = some qualifier := rfl
  simp only [declared, declares, pure_bind]

theorem read_declarations (place : Xml.Surroundings) (rest : List Xml.RawAttribute) :
    Xml.Reading.readWritten place [] [] (declarations.map Xml.rawAttribute ++ rest) =
      Xml.Reading.readWritten place [] spaces rest := by
  simp only [declarations, spaces, List.map_cons, List.map_nil, List.cons_append, List.nil_append]
  rw [read_declaration place _ _ _ _ (by decide) rfl]
  rw [read_declaration place _ _ _ _ (by decide) rfl]
  rw [read_declaration place _ _ _ _ (by decide) rfl]
  rw [read_declaration place _ _ _ _ (by decide) rfl]
  rw [read_declaration place _ _ _ _ (by decide) rfl]
  rfl

namespace Parts

variable (parts : Parts options subject)

theorem tidy_children : ∀ child ∈ parts.children, Tidy scope 5 child := by
  intro child member
  have nodes := parts.element_id_allowed
  have flows := parts.flows_allowed
  have id := parts.process_id_allowed
  rcases List.mem_cons.mp member with rfl | last
  · exact tidy_process parts.flows flows id nodes
  · rw [List.mem_singleton.mp last]
    exact tidy_diagram parts.shapes parts.edges parts.token_allowed id
      (fun shape inside => nodes shape.1 (parts.shape_node shape inside))
      (fun edge inside => (flows edge.1 (parts.edge_flow edge inside)).1)

theorem root_legible : LegibleTag scope (model "definitions") parts.attributes :=
  tag_legible _ ["id", "targetNamespace", "exporter", "exporterVersion"] _ (by decide) rfl
    parts.attributes_allowed

theorem root_attributes (pair : QualifiedName × String)
    (member : pair ∈ declarations ++ parts.attributes) :
    pair.1.isPlain ∧ hasForbidden pair.2 = false := by
  have declared : ∀ pair ∈ declarations, pair.1.isPlain ∧ hasForbidden pair.2 = false := by
    decide
  rcases List.mem_append.mp member with declaration | kept
  · exact declared pair declaration
  · have unqualified := parts.root_legible.unqualified pair kept
    exact ⟨(Xml.unqualified_name _ unqualified).1, parts.attributes_allowed pair kept⟩

def restored : Xml.Node Xml.ExpandedName :=
  .element ⟨modelSpace, "definitions"⟩ (Xml.plainAttributes parts.attributes)
    (Xml.resolvedNodes scope (Xml.spaced (some 0) parts.children))

theorem read_around (children : List Element) (tidy : ∀ child ∈ children, Tidy scope 5 child) :
    Xml.read (Xml.printDocument (.element (model "definitions") (declarations ++ parts.attributes)
        children)) =
      some (.element ⟨modelSpace, "definitions"⟩ (Xml.plainAttributes parts.attributes)
        (Xml.resolvedNodes scope (Xml.spaced (some 0) children))) := by
  have declared : Xml.Reading.readWritten {} [] []
      ((declarations ++ parts.attributes).map Xml.rawAttribute) =
        pure (spaces, Xml.Reading.tagAttributes parts.attributes) := by
    rw [List.map_append, read_declarations]
    exact Xml.Reading.read_written_plain {} spaces _ parts.root_legible.unqualified
  exact Xml.read_printed (model "definitions") _ parts.attributes children spaces 5
    (by decide) (fun pair member => (parts.root_attributes pair member).1)
    (fun pair member => (parts.root_attributes pair member).2) declared parts.root_legible tidy

theorem read_root : Xml.read (Xml.printDocument parts.root) = some parts.restored :=
  parts.read_around parts.children parts.tidy_children

theorem clean_root : Xml.Clean (Xml.printDocument parts.root).toList :=
  Xml.clean_document scope 5 (model "definitions") _ parts.children (by decide)
    (fun pair member => (parts.root_attributes pair member).1)
    (fun pair member => (parts.root_attributes pair member).2) parts.tidy_children

end Parts

theorem parts_of_text (text : String) (written : write options subject = .ok text) :
    ∃ parts : Parts options subject, text = Xml.printDocument parts.root := by
  cases built : tree options subject with
  | error failure =>
      rw [write, built] at written
      cases written
  | ok root =>
      obtain ⟨parts, rfl⟩ := parts_of_tree root built
      rw [write, built] at written
      exact ⟨parts, (Except.ok.inj written).symm⟩

theorem read_written (text : String) (written : write options subject = .ok text) :
    ∃ parts : Parts options subject, Xml.read text = some parts.restored := by
  obtain ⟨parts, rfl⟩ := parts_of_text text written
  exact ⟨parts, parts.read_root⟩

theorem written_clean (text : String) (written : write options subject = .ok text) :
    Xml.Clean text.toList := by
  obtain ⟨parts, rfl⟩ := parts_of_text text written
  exact parts.clean_root

end ProcessDiagram.Document
