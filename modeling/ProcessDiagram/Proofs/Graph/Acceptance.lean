import ProcessDiagram.Proofs.Graph.Sound

set_option autoImplicit false

namespace ProcessDiagram

-- Two branches that no reader can tell apart; branches without a condition are not meant.
def Edge.SameChoice (first second : Edge) : Prop :=
  ∃ condition, condition ≠ "" ∧ first.condition = some condition ∧ second.condition = some condition

namespace Graph

open Reach (Leads Search)

structure WellFormed (graph : Graph) : Prop where
  ids : graph.nodes.Pairwise fun first second => first.id ≠ second.id
  elementIds : graph.nodes.Pairwise fun first second => first.elementId ≠ second.elementId
  joined : ∀ edge ∈ graph.edges,
    (∃ node ∈ graph.nodes, node.id = edge.source) ∧ ∃ node ∈ graph.nodes, node.id = edge.target
  oneStart : (graph.nodes.countP fun node => node.kind = .startEvent) = 1
  unentered : ∀ node ∈ graph.nodes, node.kind = .startEvent →
    ∀ edge ∈ graph.edges, edge.target ≠ node.id
  entered : ∀ node ∈ graph.nodes, node.kind ≠ .startEvent →
    ∃ edge ∈ graph.edges, edge.target = node.id
  left : ∀ node ∈ graph.nodes, node.kind ≠ .endEvent → ∃ edge ∈ graph.edges, edge.source = node.id
  reached : ∀ start ∈ graph.nodes, start.kind = .startEvent →
    ∀ node ∈ graph.nodes, Leads graph.links start.id node.id
  choices : ∀ node ∈ graph.nodes, node.kind = .exclusiveGateway →
    graph.edges.Pairwise fun first second =>
      first.source = node.id → second.source = node.id → ¬ first.SameChoice second

variable (graph : Graph)

theorem known_iff (id : String) : id ∈ graph.ids ↔ ∃ node ∈ graph.nodes, node.id = id := by
  rw [ids, List.mem_map]

theorem mem_starts (start : Node) :
    start ∈ graph.starts ↔ start ∈ graph.nodes ∧ start.kind = .startEvent := by
  rw [starts, ofKind, List.mem_filter, decide_eq_true_eq]

theorem nothing_enters (id : String) :
    graph.incoming id = [] ↔ ∀ edge ∈ graph.edges, edge.target ≠ id := by
  simp only [incoming, List.filter_eq_nil_iff, decide_eq_true_eq, ne_eq]

theorem something_enters (id : String) :
    graph.incoming id ≠ [] ↔ ∃ edge ∈ graph.edges, edge.target = id := by
  rw [ne_eq, nothing_enters]
  push Not
  rfl

theorem something_leaves (id : String) :
    graph.outgoing id ≠ [] ↔ ∃ edge ∈ graph.edges, edge.source = id := by
  simp only [outgoing, ne_eq, List.filter_eq_nil_iff, decide_eq_true_eq, not_forall,
    Classical.not_not, exists_prop]

theorem single_start_iff :
    (∃ start, graph.starts = [start]) ↔
      (graph.nodes.countP fun node => node.kind = .startEvent) = 1 := by
  rw [List.countP_eq_length_filter, List.length_eq_one_iff]
  rfl

theorem same_choice_iff (first second : Edge) :
    first.SameChoice second ↔ ∃ label, first.label? = some label ∧ second.label? = some label := by
  simp only [Edge.SameChoice, Edge.label?, Option.filter_eq_some_iff, decide_eq_true_eq, ne_eq]
  constructor
  · rintro ⟨condition, nonempty, one, two⟩
    exact ⟨condition, ⟨one, nonempty⟩, two, nonempty⟩
  · rintro ⟨label, ⟨one, nonempty⟩, two, _⟩
    exact ⟨label, nonempty, one, two⟩

theorem labels_distinct_iff (id : String) :
    (graph.branchLabels id).Nodup ↔ graph.edges.Pairwise fun first second =>
      first.source = id → second.source = id → ¬ first.SameChoice second := by
  rw [branchLabels, outgoing, List.Nodup, List.pairwise_filterMap, List.pairwise_filter]
  refine List.Pairwise.iff fun first second => ?_
  rw [same_choice_iff]
  simp only [decide_eq_true_eq, not_exists, not_and]
  constructor
  · exact fun apart one two label first second => apart one two label first label second rfl
  · rintro apart one two label shown other otherShown rfl
    exact apart one two label shown otherShown

theorem sound_iff_well_formed : graph.Sound ↔ graph.WellFormed := by
  constructor
  · intro sound
    refine ⟨List.pairwise_map.mp sound.distinct, List.pairwise_map.mp sound.elementsDistinct, ?_,
      (single_start_iff graph).mp sound.start, ?_, ?_, ?_, ?_, ?_⟩
    · intro edge member
      obtain ⟨source, target⟩ := sound.connected edge member
      exact ⟨(known_iff graph _).mp source, (known_iff graph _).mp target⟩
    · intro node member start
      exact (nothing_enters graph node.id).mp ((sound.entered node member).mpr start)
    · intro node member further
      exact (something_enters graph node.id).mp fun none =>
        further ((sound.entered node member).mp none)
    · intro node member further
      exact (something_leaves graph node.id).mp fun none => further (sound.left node member none)
    · intro start member kind node inside
      exact sound.reached start ((mem_starts graph start).mpr ⟨member, kind⟩) node.id
        (List.mem_map_of_mem inside)
    · intro node member exclusive
      exact (labels_distinct_iff graph node.id).mp (sound.labelled node member exclusive)
  · intro formed
    refine ⟨List.pairwise_map.mpr formed.ids, List.pairwise_map.mpr formed.elementIds, ?_,
      (single_start_iff graph).mpr formed.oneStart, ?_, ?_, ?_, ?_⟩
    · intro edge member
      obtain ⟨source, target⟩ := formed.joined edge member
      exact ⟨(known_iff graph _).mpr source, (known_iff graph _).mpr target⟩
    · intro node member
      constructor
      · intro none
        by_contra further
        exact (something_enters graph node.id).mpr (formed.entered node member further) none
      · intro start
        exact (nothing_enters graph node.id).mpr (formed.unentered node member start)
    · intro node member none
      by_contra further
      exact (something_leaves graph node.id).mpr (formed.left node member further) none
    · intro start member id known
      obtain ⟨inside, kind⟩ := (mem_starts graph start).mp member
      obtain ⟨node, listed, rfl⟩ := (known_iff graph id).mp known
      exact formed.reached start inside kind node listed
    · intro node member exclusive
      exact (labels_distinct_iff graph node.id).mpr (formed.choices node member exclusive)

/-- A graph is without defects exactly when it is well-formed. Ids may repeat, and edges may lead nowhere
or in circles; the search for what is reached ends in any order. -/
theorem structure_decided :
    WellFounded (fun after before => Search.Step graph.links before after) ∧
      (∀ id, Relation.ReflTransGen (Search.Step graph.links) ⟨[id], []⟩ ⟨[], graph.reachable id⟩) ∧
      (∀ id seen, Relation.ReflTransGen (Search.Step graph.links) ⟨[id], []⟩ ⟨[], seen⟩ →
        ∀ other, other ∈ seen ↔ Leads graph.links id other) ∧
      (∀ id other, other ∈ graph.reachable id ↔ Leads graph.links id other) ∧
      (graph.defects = [] ↔ graph.WellFormed) :=
  ⟨Search.steps_end graph.links, Reach.reachable_runs graph.links,
    fun id seen run => Search.ended_iff graph.links id seen run, Reach.mem_reachable graph.links,
    (sound_iff graph).symm.trans (sound_iff_well_formed graph)⟩

end Graph

end ProcessDiagram
