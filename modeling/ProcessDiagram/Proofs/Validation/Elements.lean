import Mathlib.Data.List.Flatten
import Mathlib.Data.List.Pairwise
import ProcessDiagram.Proofs.Validation.Conformance
import ProcessDiagram.Proofs.Validation.Outline

set_option autoImplicit false

namespace ProcessDiagram.Validation

theorem within_all (nodes : List Element) : withinAll nodes = nodes.flatMap within := by
  induction nodes with
  | nil => rfl
  | cons first rest ih => rw [withinAll, ih, List.flatMap_cons]

mutual
theorem ids_within (node : Element) (plain : ∀ target data, .instruction target data ∉ within node) :
    idsOf node = (within node).filterMap identifier? := by
  cases node with
  | element name attributes children =>
      have inner : ∀ target data, .instruction target data ∉ withinAll children :=
        fun target data member => plain target data (by
          rw [within]
          exact List.mem_cons_of_mem _ member)
      rw [idsOf, within, List.filterMap_cons, ids_within_all children inner, identifier?, attribute?]
      cases attributes.lookup ⟨"", "id"⟩ with
      | none => rfl
      | some id => rfl
  | text value => simp [idsOf, within, identifier?, attribute?]
  | comment value => simp [idsOf, within, identifier?, attribute?]
  | instruction target data => exact absurd (by simp [within]) (plain target data)

theorem ids_within_all (nodes : List Element)
    (plain : ∀ target data, .instruction target data ∉ withinAll nodes) :
    idsOfAll nodes = (withinAll nodes).filterMap identifier? := by
  cases nodes with
  | nil => rfl
  | cons first rest =>
      simp only [withinAll, List.mem_append, not_or] at plain
      rw [idsOfAll, withinAll, List.filterMap_append,
        ids_within first fun target data => (plain target data).1,
        ids_within_all rest fun target data => (plain target data).2]
end

theorem within_self (node : Element) : [node].Sublist (within node) := by
  cases node <;> simp [within]

theorem children_within (element : Element) : element.children.Sublist (within element) := by
  cases element with
  | element name attributes children =>
      have each := List.Sublist.flatMap_right children fun child _ => within_self child
      rw [List.flatMap_singleton'] at each
      rw [Xml.Node.children, within, within_all]
      exact .cons _ each
  | text value => exact List.nil_sublist _
  | comment value => exact List.nil_sublist _
  | instruction target data => exact List.nil_sublist _

theorem child_within (element child : Element) (member : child ∈ element.children) :
    (within child).Sublist (within element) := by
  cases element with
  | element name attributes children =>
      have one := (List.singleton_sublist.mpr member).flatMap within
      rw [List.flatMap_singleton] at one
      rw [within, within_all]
      exact .cons _ one
  | text value => cases member
  | comment value => cases member
  | instruction target data => cases member

theorem children_distinct (root process : Element) (member : process ∈ root.children)
    (distinct : ((within root).filterMap identifier?).Nodup) :
    (process.children.filterMap identifier?).Nodup :=
  distinct.sublist (((children_within process).trans (child_within root process member)).filterMap _)

theorem same_element (elements : List Element) (distinct : (elements.filterMap identifier?).Nodup)
    (first second : Element) (member : first ∈ elements) (other : second ∈ elements) (id : String)
    (named : identifier? first = some id) (alike : identifier? second = some id) :
    first = second := by
  have symmetric : Std.Symm fun one other : Element => ∀ id, identifier? one = some id →
      ∀ second, identifier? other = some second → id ≠ second :=
    ⟨fun _ _ apart second two first one same => apart first one second two same.symm⟩
  by_contra different
  exact (List.pairwise_filterMap.mp distinct).forall member other different id named id alike rfl

theorem identified_ids (elements : List Element)
    (identified : ∀ element ∈ elements, (identifier? element).isSome) :
    elements.map (fun element => (identifier? element).getD "") =
      elements.filterMap identifier? := by
  induction elements with
  | nil => rfl
  | cons first rest ih =>
      obtain ⟨one, others⟩ := List.forall_mem_cons.mp identified
      obtain ⟨id, named⟩ := Option.isSome_iff_exists.mp one
      rw [List.map_cons, List.filterMap_cons_some named, named, ih others, Option.getD_some]

section Process

variable (process : Element)

theorem mem_flow_nodes (element : Element) : element ∈ flowNodesOf process ↔
    ∃ kind : NodeKind, element ∈ childrenNamed (modelName kind.name) process := by
  simp only [flowNodesOf, List.mem_flatMap]
  exact ⟨fun ⟨kind, _, member⟩ => ⟨kind, member⟩,
    fun ⟨kind, member⟩ => ⟨kind, mem_kinds kind, member⟩⟩

theorem flow_node_child (element : Element) (member : element ∈ flowNodesOf process) :
    element ∈ process.children := by
  obtain ⟨kind, inside⟩ := (mem_flow_nodes process element).mp member
  exact List.mem_of_mem_filter inside

theorem start_node (start : Element)
    (only : childrenNamed (modelName "startEvent") process = [start]) :
    start ∈ childrenNamed (modelName "startEvent") process ∧ start ∈ flowNodesOf process :=
  have begins := only ▸ List.mem_cons_self
  ⟨begins, (mem_flow_nodes process start).mpr ⟨.startEvent, begins⟩⟩

theorem reached_inside (node : Element) (reached : Reached process node) :
    node ∈ flowNodesOf process := by
  cases reached with
  | start _ first => exact (mem_flow_nodes process node).mpr ⟨.startEvent, first⟩
  | step _ _ _ _ _ _ _ inside => exact inside

theorem kind_named (first second : NodeKind) (element : Element)
    (member : element ∈ childrenNamed (modelName first.name) process) :
    element.name? = some (modelName second.name) ↔ first = second := by
  have named : element.name? = some (modelName first.name) :=
    of_decide_eq_true (List.mem_filter.mp member).2
  rw [named]
  constructor
  · intro same
    exact kind_name_injective first second
      (congrArg Xml.ExpandedName.localName (Option.some.inj same))
  · rintro rfl
    rfl

def entriesOf : Table String FlowNode :=
  NodeKind.all.flatMap (flowNodesOfKind process)

theorem nodes_table : (Outline.ofProcess process).nodes = Table.ofList (entriesOf process) := rfl

theorem entry_keys : Table.keys (entriesOf process) =
    (flowNodesOf process).map fun element => (identifier? element).getD "" := by
  simp only [Table.keys, entriesOf, flowNodesOf, List.map_flatMap, flowNodesOfKind, List.map_map]
  rfl

theorem each_entry (property : String × FlowNode → Prop) :
    (∀ entry ∈ entriesOf process, property entry) ↔
      ∀ (kind : NodeKind), ∀ element ∈ childrenNamed (modelName kind.name) process,
        property ((identifier? element).getD "", flowNodeOf kind element) := by
  simp only [entriesOf, List.mem_flatMap, flowNodesOfKind, List.mem_map]
  constructor
  · exact fun each kind element member => each _ ⟨kind, mem_kinds kind, element, member, rfl⟩
  · rintro each _ ⟨kind, _, element, member, rfl⟩
    exact each kind element member

theorem each_node (property : Element → Prop) :
    (∀ node ∈ flowNodesOf process, property node) ↔
      ∀ (kind : NodeKind), ∀ element ∈ childrenNamed (modelName kind.name) process,
        property element := by
  simp only [mem_flow_nodes]
  exact ⟨fun each kind element member => each element ⟨kind, member⟩,
    fun each element ⟨kind, member⟩ => each kind element member⟩

theorem node_ids_distinct (distinct : (process.children.filterMap identifier?).Nodup) :
    ((flowNodesOf process).filterMap identifier?).Nodup := by
  rw [flowNodesOf, List.filterMap_flatMap, List.nodup_flatMap]
  constructor
  · intro kind _
    exact distinct.sublist (List.filter_sublist.filterMap _)
  · have kinds : NodeKind.all.Nodup := by decide
    refine kinds.imp fun {first second} apart => ?_
    intro id inFirst inSecond
    obtain ⟨one, member, named⟩ := List.mem_filterMap.mp inFirst
    obtain ⟨other, memberToo, alike⟩ := List.mem_filterMap.mp inSecond
    have same := same_element process.children distinct one other (List.mem_of_mem_filter member)
      (List.mem_of_mem_filter memberToo) id named alike
    subst same
    have name : one.name? = some (modelName second.name) :=
      of_decide_eq_true (List.mem_filter.mp memberToo).2
    exact apart ((kind_named process first second one member).mp name)

variable (identified : ∀ element ∈ flowNodesOf process ++ sequenceFlowsOf process,
  (identifier? element).isSome)

include identified

theorem node_identified (node : Element) (member : node ∈ flowNodesOf process) :
    some ((identifier? node).getD "") = identifier? node := by
  obtain ⟨id, named⟩ := Option.isSome_iff_exists.mp
    (identified node (List.mem_append_left _ member))
  rw [named, Option.getD_some]

theorem node_keys :
    Table.keys (entriesOf process) = (flowNodesOf process).filterMap identifier? := by
  rw [entry_keys, identified_ids]
  exact fun node member => identified node (List.mem_append_left _ member)

theorem outline_nodes (distinct : (process.children.filterMap identifier?).Nodup) :
    (Outline.ofProcess process).nodes = entriesOf process := by
  rw [nodes_table]
  apply Table.of_list_distinct
  rw [node_keys process identified]
  exact node_ids_distinct process distinct

theorem has_node_iff (reference : Option String) :
    (Outline.ofProcess process).hasNode reference = true ↔
      RefersTo (flowNodesOf process) reference := by
  cases reference with
  | none => simp [Outline.hasNode, RefersTo]
  | some id =>
      rw [Outline.hasNode, Table.get_is_some, nodes_table, Table.mem_keys_of_list,
        node_keys process identified, List.mem_filterMap]
      simp [RefersTo]

theorem has_flow_iff (reference : Option String) :
    (Outline.ofProcess process).hasFlow reference = true ↔
      RefersTo (sequenceFlowsOf process) reference := by
  have ids : (Outline.ofProcess process).flows.map Flow.id =
      (sequenceFlowsOf process).map identifier? := List.map_map
  rw [Outline.hasFlow, List.contains_iff_mem, ids, List.mem_map]
  constructor
  · rintro ⟨flow, member, named⟩
    obtain ⟨id, known⟩ := Option.isSome_iff_exists.mp
      (identified flow (List.mem_append_right _ member))
    exact ⟨id, named.symm.trans known, flow, member, known⟩
  · rintro ⟨id, rfl, flow, member, known⟩
    exact ⟨flow, member, known⟩

end Process

end ProcessDiagram.Validation
