import ProcessDiagram.Graph.Defect
import ProcessDiagram.Proofs.Reach

set_option autoImplicit false

namespace ProcessDiagram.Graph

open Reach (Leads Linked)

theorem linked_iff (graph : Graph) (first second : String) :
    Linked graph.links first second ↔
      ∃ edge ∈ graph.edges, edge.source = first ∧ edge.target = second := by
  rw [Linked, links, List.mem_map]
  simp only [Prod.mk.injEq]

theorem rank_behind (graph : Graph) (rank : String → Nat)
    (grows : ∀ edge ∈ graph.edges, rank edge.source < rank edge.target)
    (first second : String) (behind : Relation.TransGen (Linked graph.links) first second) :
    rank first < rank second := by
  have step : ∀ source target, Linked graph.links source target → rank source < rank target := by
    intro source target link
    obtain ⟨edge, member, rfl, rfl⟩ := (linked_iff graph _ _).mp link
    exact grows edge member
  induction behind with
  | single link => exact step _ _ link
  | tail _ link ih => exact ih.trans (step _ _ link)

theorem found_member (graph : Graph) (id : String) (node : Node)
    (found : graph.node? id = some node) : node ∈ graph.nodes ∧ node.id = id := by
  rw [node?] at found
  have member := List.mem_reverse.mp (List.mem_of_find?_eq_some found)
  exact ⟨member, by simpa using List.find?_some found⟩

theorem node_found (graph : Graph) (id : String) (known : id ∈ graph.ids) :
    ∃ node, graph.node? id = some node := by
  obtain ⟨node, member, same⟩ := List.mem_map.mp known
  have found : (graph.node? id).isSome := by
    rw [node?, List.find?_isSome]
    exact ⟨node, List.mem_reverse.mpr member, by simpa using same⟩
  exact Option.isSome_iff_exists.mp found

theorem unknown_iff (graph : Graph) (id : String) : graph.node? id = none ↔ id ∉ graph.ids := by
  constructor
  · intro missing known
    obtain ⟨node, found⟩ := node_found graph id known
    rw [missing] at found
    cases found
  · intro unknown
    cases found : graph.node? id with
    | none => rfl
    | some node =>
        obtain ⟨member, rfl⟩ := found_member graph id node found
        exact absurd (List.mem_map_of_mem member) unknown

theorem node_of_id (graph : Graph) (distinct : graph.ids.Nodup) (node : Node)
    (member : node ∈ graph.nodes) : graph.node? node.id = some node := by
  obtain ⟨other, found⟩ := node_found graph node.id (List.mem_map_of_mem member)
  obtain ⟨inside, same⟩ := found_member graph _ other found
  rw [found, List.inj_on_of_nodup_map distinct inside member same]

structure Sound (graph : Graph) : Prop where
  distinct : graph.ids.Nodup
  elementsDistinct : (graph.nodes.map Node.elementId).Nodup
  connected : ∀ edge ∈ graph.edges, edge.source ∈ graph.ids ∧ edge.target ∈ graph.ids
  start : ∃ start, graph.starts = [start]
  entered : ∀ node ∈ graph.nodes, graph.incoming node.id = [] ↔ node.kind = .startEvent
  left : ∀ node ∈ graph.nodes, graph.outgoing node.id = [] → node.kind = .endEvent
  reached : ∀ start ∈ graph.starts, ∀ id ∈ graph.ids, Leads graph.links start.id id
  labelled : ∀ node ∈ graph.nodes, node.kind = .exclusiveGateway →
    (graph.branchLabels node.id).Nodup

theorem Sound.single_start (graph : Graph) (sound : graph.Sound) : graph.starts.length ≤ 1 := by
  obtain ⟨start, only⟩ := sound.start
  rw [only]
  exact Nat.le_refl 1

theorem when_nothing (condition : Bool) (defect : Defect) :
    when condition defect = [] ↔ condition = false := by
  cases condition <;> simp [when]

theorem no_id_defects (graph : Graph) :
    graph.idDefects = [] ↔ graph.ids.Nodup ∧ (graph.nodes.map Node.elementId).Nodup := by
  simp [idDefects, when_nothing]

theorem no_edge_defects (graph : Graph) :
    graph.edgeDefects = [] ↔
      ∀ edge ∈ graph.edges, edge.source ∈ graph.ids ∧ edge.target ∈ graph.ids := by
  rw [edgeDefects, List.flatMap_eq_nil_iff]
  constructor
  · intro none edge member
    obtain ⟨index, bound, rfl⟩ := List.mem_iff_getElem.mp member
    have entry := none (graph.edges[index], index) (List.mem_zipIdx_iff_getElem?.mpr (by simp [bound]))
    simpa [when_nothing] using entry
  · intro known entry member
    have edge := known entry.1 (List.fst_mem_of_mem_zipIdx member)
    simpa [when_nothing] using edge

theorem no_start_defects (graph : Graph) :
    graph.startDefects = [] ↔ ∃ start, graph.starts = [start] := by
  rw [startDefects, when_nothing, ← List.length_eq_one_iff]
  simp

theorem no_node_defects (graph : Graph) :
    graph.nodeDefects = [] ↔
      (∀ node ∈ graph.nodes, graph.incoming node.id = [] ↔ node.kind = .startEvent) ∧
        ∀ node ∈ graph.nodes, graph.outgoing node.id = [] → node.kind = .endEvent := by
  have each : ∀ node : Node,
      (when (node.kind ≠ .startEvent && (graph.incoming node.id).isEmpty)
          (.noIncoming node.label node.id) ++
        when (node.kind = .startEvent && !(graph.incoming node.id).isEmpty)
          (.startIncoming node.label) ++
        when (node.kind ≠ .endEvent && (graph.outgoing node.id).isEmpty)
          (.noOutgoing node.label node.id) = []) ↔
      (graph.incoming node.id = [] ↔ node.kind = .startEvent) ∧
        (graph.outgoing node.id = [] → node.kind = .endEvent) := by
    intro node
    by_cases start : node.kind = .startEvent
    · simp [when_nothing, start]
    · by_cases final : node.kind = .endEvent
      · simp [when_nothing, final]
      · simp [when_nothing, start, final]
  rw [nodeDefects, List.flatMap_eq_nil_iff]
  constructor
  · intro none
    exact ⟨fun node member => ((each node).mp (none node member)).1,
      fun node member => ((each node).mp (none node member)).2⟩
  · rintro ⟨entered, left⟩ node member
    exact (each node).mpr ⟨entered node member, left node member⟩

theorem no_reach_defects (graph : Graph) (start : Node) (only : graph.starts = [start]) :
    graph.reachDefects = [] ↔ ∀ id ∈ graph.ids, Leads graph.links start.id id := by
  have listed : ∀ id, id ∈ graph.unreachableIds ↔
      id ∈ graph.ids ∧ ¬ Leads graph.links start.id id := by
    intro id
    rw [← Reach.mem_reachable]
    simp [unreachableIds, only, Text.sort, reachable]
  rw [reachDefects, when_nothing]
  simp only [Bool.not_eq_false', List.isEmpty_iff, List.eq_nil_iff_forall_not_mem, listed,
    not_and, Classical.not_not]

theorem no_label_defects (graph : Graph) :
    graph.labelDefects = [] ↔ ∀ node ∈ graph.nodes, node.kind = .exclusiveGateway →
      (graph.branchLabels node.id).Nodup := by
  simp [labelDefects, when_nothing, ofKind]

theorem sound_iff (graph : Graph) : graph.Sound ↔ graph.defects = [] := by
  simp only [defects, List.append_eq_nil_iff, no_id_defects, no_edge_defects, no_start_defects,
    no_node_defects, no_label_defects]
  constructor
  · intro sound
    obtain ⟨start, only⟩ := sound.start
    have reached := (no_reach_defects graph start only).mpr
      (sound.reached start (by rw [only]; exact List.mem_cons_self))
    exact ⟨⟨⟨⟨⟨⟨sound.distinct, sound.elementsDistinct⟩, sound.connected⟩, start, only⟩,
      sound.entered, sound.left⟩, reached⟩, sound.labelled⟩
  · rintro ⟨⟨⟨⟨⟨⟨distinct, elementsDistinct⟩, connected⟩, start, only⟩, entered, left⟩, reached⟩,
      labelled⟩
    refine ⟨distinct, elementsDistinct, connected, ⟨start, only⟩, entered, left, ?_, labelled⟩
    intro other member
    rw [only, List.mem_singleton] at member
    rw [member]
    exact (no_reach_defects graph start only).mp reached

end ProcessDiagram.Graph
