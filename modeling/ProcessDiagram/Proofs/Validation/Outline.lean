import ProcessDiagram.Proofs.Document.ReadBack
import ProcessDiagram.Proofs.Graph.Sound
import ProcessDiagram.Proofs.Table
import ProcessDiagram.Validation.Outline

set_option autoImplicit false

namespace ProcessDiagram.Validation

open Document (Parts readBack scope nodeElement flowElement)
open Xml (QualifiedName ExpandedName)

variable {options : Document.Options} {subject : Document.Subject}

theorem children_read (depth : Option Nat) (wanted : ExpandedName) (name : QualifiedName)
    (attributes : List (QualifiedName × String)) (children : List Document.Element)
    (solid : ∀ child ∈ children, child.isText = false) :
    childrenNamed wanted (readBack depth (.element name attributes children)) =
      (children.filter fun child => child.name?.map scope.expanded = some wanted).map
        (readBack (depth.map (· + 1))) := by
  have named : ∀ depth child, (readBack depth child).name? = child.name?.map scope.expanded := by
    intro depth child
    cases child <;> rfl
  rw [childrenNamed, readBack, Xml.restored, Xml.Node.children,
    Xml.filter_spaced scope depth children solid _ fun _ => rfl, List.filter_map]
  congr 2
  funext child
  rw [Function.comp_apply, ← named (depth.map (· + 1))]
  rfl

theorem text_of_leaf (depth : Option Nat) (name : QualifiedName) (value : String)
    (solid : value ≠ "") :
    (readBack depth (.element name [] [.text value])).text? = some value := by
  rw [readBack, Xml.restored, Xml.Node.text?, Xml.Node.children, Xml.restored_text, if_neg solid,
    Xml.Node.leadingText, Xml.Node.leadingText]
  · simp
  · simp

theorem kind_name_injective (first second : NodeKind) (same : first.name = second.name) :
    first = second := by
  revert same
  cases first <;> cases second <;> decide

theorem flow_id_solid (token : String) (index : Nat) : Document.flowId token index ≠ "" := by
  intro same
  have chars := congrArg String.toList same
  simp [Document.flowId] at chars

def nodeEntry (flows : List Document.Flow) (node : Node) : String × FlowNode :=
  (node.elementId, {
    kind := node.kind
    incoming := (flows.filter fun flow => flow.edge.target = node.id).map fun flow => some flow.id
    outgoing := (flows.filter fun flow => flow.edge.source = node.id).map fun flow => some flow.id })

theorem documentation_unnamed (text : String) (wanted : String) (apart : "documentation" ≠ wanted) :
    (Document.documentationElements options text).filter
      (fun child => child.name?.map scope.expanded = some (modelName wanted)) = [] := by
  rw [List.filter_eq_nil_iff]
  intro child member
  rw [Document.documentationElements] at member
  split at member
  · rw [List.mem_singleton.mp member]
    have expanded : scope.expanded (Document.model "documentation") =
        modelName "documentation" := rfl
    simp [Xml.Node.name?, expanded, modelName, apart]
  · cases member

theorem filter_named {Value : Type} (values : List Value) (write : Value → Document.Element)
    (name : Value → QualifiedName) (named : ∀ value, (write value).name? = some (name value))
    (wanted : ExpandedName) :
    (values.map write).filter (fun child => child.name?.map scope.expanded = some wanted) =
      (values.filter fun value => scope.expanded (name value) = wanted).map write := by
  rw [List.filter_map]
  congr 1
  apply List.filter_congr
  intro value _
  simp [named]

theorem filter_one_name {Value : Type} (values : List Value) (write : Value → Document.Element)
    (name : QualifiedName) (named : ∀ value, (write value).name? = some name)
    (wanted : ExpandedName) :
    (values.map write).filter (fun child => child.name?.map scope.expanded = some wanted) =
      if scope.expanded name = wanted then values.map write else [] := by
  rw [filter_named values write (fun _ => name) named]
  by_cases same : scope.expanded name = wanted <;> simp [same]

theorem references_named (name wanted : String) (flows : List Document.Flow) :
    (flows.map (Document.reference name)).filter
      (fun child => child.name?.map scope.expanded = some (modelName wanted)) =
        if name = wanted then flows.map (Document.reference name) else [] := by
  have expanded : scope.expanded (Document.model name) = modelName name := rfl
  rw [filter_one_name flows _ (Document.model name) fun _ => rfl]
  simp only [expanded, modelName, ExpandedName.mk.injEq, true_and]

theorem reference_texts (depth : Option Nat) (name : String) (flows : List Document.Flow)
    (solid : ∀ flow ∈ flows, flow.id ≠ "") :
    ((flows.map (Document.reference name)).map (readBack depth)).map Xml.Node.text? =
      flows.map fun flow => some flow.id := by
  rw [List.map_map, List.map_map]
  apply List.map_congr_left
  intro flow member
  exact text_of_leaf depth (Document.model name) flow.id (solid flow member)

theorem node_children_text (text : String) (ending starting : List Document.Flow) :
    ∀ child ∈ Document.documentationElements options text ++
      ending.map (Document.reference "incoming") ++ starting.map (Document.reference "outgoing"),
      child.isText = false := by
  intro child member
  rw [List.mem_append, List.mem_append] at member
  rcases member with (inDocumentation | inEnding) | inStarting
  · rw [Document.documentationElements] at inDocumentation
    split at inDocumentation
    · rw [List.mem_singleton.mp inDocumentation]
      rfl
    · cases inDocumentation
  · obtain ⟨flow, _, rfl⟩ := List.mem_map.mp inEnding
    rfl
  · obtain ⟨flow, _, rfl⟩ := List.mem_map.mp inStarting
    rfl

theorem references_read (options : Document.Options) (depth : Option Nat)
    (flows : List Document.Flow) (node : Node) (solid : ∀ flow ∈ flows, flow.id ≠ "") :
    referencesOf "incoming" (readBack depth (nodeElement options flows node)) =
        (nodeEntry flows node).2.incoming ∧
      referencesOf "outgoing" (readBack depth (nodeElement options flows node)) =
        (nodeEntry flows node).2.outgoing := by
  have solidWhere : ∀ chosen : Document.Flow → Bool, ∀ flow ∈ flows.filter chosen, flow.id ≠ "" :=
    fun chosen flow member => solid flow (List.mem_filter.mp member).1
  rw [nodeElement]
  constructor
  · rw [referencesOf, children_read depth _ _ _ _ (node_children_text _ _ _), List.filter_append,
      List.filter_append, documentation_unnamed _ _ (by decide), references_named,
      references_named, if_pos rfl, if_neg (by decide), List.nil_append, List.append_nil,
      reference_texts _ _ _ (solidWhere _)]
    rfl
  · rw [referencesOf, children_read depth _ _ _ _ (node_children_text _ _ _), List.filter_append,
      List.filter_append, documentation_unnamed _ _ (by decide), references_named,
      references_named, if_neg (by decide), if_pos rfl, List.nil_append, List.nil_append,
      reference_texts _ _ _ (solidWhere _)]
    rfl

theorem node_entry_read (depth : Option Nat) (flows : List Document.Flow) (node : Node)
    (solid : ∀ flow ∈ flows, flow.id ≠ "") :
    ((attribute? "id" (readBack depth (nodeElement options flows node))).getD "",
      flowNodeOf node.kind (readBack depth (nodeElement options flows node))) =
        nodeEntry flows node := by
  obtain ⟨incoming, outgoing⟩ := references_read options depth flows node solid
  rw [flowNodeOf, incoming, outgoing]
  rfl

theorem process_children_text (flows : List Document.Flow) :
    ∀ child ∈ Document.documentationElements options subject.documentation ++
      subject.graph.nodes.map (nodeElement options flows) ++ flows.map flowElement,
      child.isText = false := by
  intro child member
  rw [List.mem_append, List.mem_append] at member
  rcases member with (inDocumentation | inNodes) | inFlows
  · rw [Document.documentationElements] at inDocumentation
    split at inDocumentation
    · rw [List.mem_singleton.mp inDocumentation]
      rfl
    · cases inDocumentation
  · obtain ⟨node, _, rfl⟩ := List.mem_map.mp inNodes
    rfl
  · obtain ⟨flow, _, rfl⟩ := List.mem_map.mp inFlows
    rfl

theorem kind_read (depth : Option Nat) (flows : List Document.Flow) (kind : NodeKind)
    (solid : ∀ flow ∈ flows, flow.id ≠ "") :
    flowNodesOfKind (readBack depth (Document.processElement options subject flows)) kind =
      (subject.graph.ofKind kind).map (nodeEntry flows) := by
  have apart : "documentation" ≠ kind.name := by
    cases kind <;> decide
  have flowsApart : scope.expanded (Document.model "sequenceFlow") ≠ modelName kind.name := by
    cases kind <;> decide
  have chosen : (subject.graph.nodes.filter fun node =>
      scope.expanded (Document.model node.kind.name) = modelName kind.name) =
        subject.graph.ofKind kind := by
    apply List.filter_congr
    intro node _
    have expanded : scope.expanded (Document.model node.kind.name) = modelName node.kind.name := rfl
    have same : node.kind.name = kind.name ↔ node.kind = kind :=
      ⟨kind_name_injective _ _, congrArg _⟩
    simp [expanded, modelName, same]
  rw [flowNodesOfKind, Document.processElement, children_read depth _ _ _ _
    (process_children_text flows), List.filter_append, List.filter_append,
    documentation_unnamed _ _ apart,
    filter_named subject.graph.nodes _ (fun node => Document.model node.kind.name) fun _ => rfl,
    chosen, filter_one_name flows _ (Document.model "sequenceFlow") fun _ => rfl, if_neg flowsApart,
    List.nil_append, List.append_nil, List.map_map, List.map_map]
  apply List.map_congr_left
  intro node member
  have ofKind : node.kind = kind := by simpa using (List.mem_filter.mp member).2
  rw [← ofKind]
  exact node_entry_read _ flows node solid

theorem flows_read (depth : Option Nat) (flows : List Document.Flow) :
    Validation.flows (readBack depth (Document.processElement options subject flows)) =
      flows.map fun flow => ⟨some flow.id, some flow.source, some flow.target⟩ := by
  have nodesApart : (subject.graph.nodes.filter fun node =>
      scope.expanded (Document.model node.kind.name) = modelName "sequenceFlow") = [] := by
    rw [List.filter_eq_nil_iff]
    intro node _
    cases node.kind <;> decide
  rw [Validation.flows, Document.processElement, children_read depth _ _ _ _
    (process_children_text flows), List.filter_append, List.filter_append,
    documentation_unnamed _ _ (by decide),
    filter_named subject.graph.nodes _ (fun node => Document.model node.kind.name) fun _ => rfl,
    nodesApart, filter_one_name flows _ (Document.model "sequenceFlow") fun _ => rfl,
    if_pos (by decide), List.map_nil, List.nil_append, List.nil_append, List.map_map, List.map_map]
  apply List.map_congr_left
  intro flow _
  rfl

theorem mem_kinds (kind : NodeKind) : kind ∈ NodeKind.all := by
  cases kind <;> decide

def entries (graph : Graph) (flows : List Document.Flow) : Table String FlowNode :=
  NodeKind.all.flatMap fun kind => (graph.ofKind kind).map (nodeEntry flows)

theorem mem_entries (graph : Graph) (flows : List Document.Flow) (entry : String × FlowNode) :
    entry ∈ entries graph flows ↔ ∃ node ∈ graph.nodes, entry = nodeEntry flows node := by
  simp only [entries, List.mem_flatMap, List.mem_map, Graph.ofKind, List.mem_filter,
    decide_eq_true_eq]
  constructor
  · rintro ⟨_, _, node, ⟨member, _⟩, rfl⟩
    exact ⟨node, member, rfl⟩
  · rintro ⟨node, member, rfl⟩
    exact ⟨node.kind, mem_kinds node.kind, node, ⟨member, rfl⟩, rfl⟩

theorem key_entries (graph : Graph) (flows : List Document.Flow) (id : String) :
    id ∈ Table.keys (entries graph flows) ↔ ∃ node ∈ graph.nodes, node.elementId = id := by
  rw [Table.mem_keys]
  constructor
  · rintro ⟨value, member⟩
    obtain ⟨node, inside, same⟩ := (mem_entries graph flows _).mp member
    exact ⟨node, inside, (congrArg Prod.fst same).symm⟩
  · rintro ⟨node, inside, rfl⟩
    exact ⟨_, (mem_entries graph flows _).mpr ⟨node, inside, rfl⟩⟩

theorem entries_distinct (graph : Graph) (flows : List Document.Flow)
    (distinct : (graph.nodes.map Node.elementId).Nodup) :
    (Table.keys (entries graph flows)).Nodup := by
  have keys : Table.keys (entries graph flows) =
      NodeKind.all.flatMap fun kind => (graph.ofKind kind).map Node.elementId := by
    simp only [Table.keys, entries, List.map_flatMap, List.map_map]
    rfl
  rw [keys, List.nodup_flatMap]
  constructor
  · intro kind _
    exact distinct.sublist (List.filter_sublist.map _)
  · have kinds : NodeKind.all.Nodup := by decide
    refine kinds.imp fun {first second} apart => ?_
    intro id inFirst inSecond
    obtain ⟨node, member, rfl⟩ := List.mem_map.mp inFirst
    obtain ⟨other, memberToo, same⟩ := List.mem_map.mp inSecond
    simp only [Graph.ofKind, List.mem_filter, decide_eq_true_eq] at member memberToo
    have equal := List.inj_on_of_nodup_map distinct memberToo.1 member.1 same
    exact apart (member.2.symm.trans (equal ▸ memberToo.2))

def flowEntry (flow : Document.Flow) : Flow :=
  ⟨some flow.id, some flow.source, some flow.target⟩

theorem outline_read (depth : Option Nat) (flows : List Document.Flow)
    (distinct : (subject.graph.nodes.map Node.elementId).Nodup)
    (solid : ∀ flow ∈ flows, flow.id ≠ "") :
    Outline.ofProcess (readBack depth (Document.processElement options subject flows)) =
      ⟨entries subject.graph flows, flows.map flowEntry⟩ := by
  have nodes : NodeKind.all.flatMap (flowNodesOfKind (readBack depth
      (Document.processElement options subject flows))) = entries subject.graph flows := by
    rw [entries]
    congr 1
    funext kind
    exact kind_read depth flows kind solid
  rw [Outline.ofProcess, flowNodes, nodes,
    Table.of_list_distinct _ (entries_distinct subject.graph flows distinct), flows_read]
  rfl

theorem filter_kind (rows : NodeKind → Table String FlowNode)
    (own : ∀ kind, ∀ entry ∈ rows kind, entry.2.kind = kind) (kind : NodeKind) :
    (NodeKind.all.flatMap rows).filter (fun entry => entry.2.kind = kind) = rows kind := by
  have only : ∀ other, ((rows other).filter fun entry => entry.2.kind = kind) =
      if other = kind then rows kind else [] := by
    intro other
    by_cases same : other = kind
    · rw [if_pos same, same, List.filter_eq_self]
      exact fun entry member => decide_eq_true (own kind entry member)
    · rw [if_neg same, List.filter_eq_nil_iff]
      exact fun entry member kept =>
        same ((own other entry member).symm.trans (of_decide_eq_true kept))
  have whole : NodeKind.all.flatMap (fun other => if other = kind then rows kind else []) =
      rows kind := by
    cases kind <;> simp [NodeKind.all]
  rw [List.filter_flatMap]
  simp only [only, whole]

theorem kind_entries (graph : Graph) (flows : List Document.Flow) (kind : NodeKind)
    (others : List Flow) :
    Outline.ofKind ⟨entries graph flows, others⟩ kind =
      (graph.ofKind kind).map Node.elementId := by
  have own : ∀ kind, ∀ entry ∈ (graph.ofKind kind).map (nodeEntry flows), entry.2.kind = kind := by
    intro kind entry member
    obtain ⟨node, inside, rfl⟩ := List.mem_map.mp member
    exact of_decide_eq_true (List.mem_filter.mp inside).2
  rw [Outline.ofKind, entries, filter_kind _ own, List.map_map]
  rfl

end ProcessDiagram.Validation
