import ProcessDiagram.Proofs.Graph.Generic

set_option autoImplicit false

namespace ProcessDiagram.Graph

open Reach (Leads Linked)
open Relation (TransGen)

structure Tree (graph : Graph) : Prop where
  sound : graph.Sound
  entries : (graph.edges.map Edge.target).Nodup
  -- Nothing follows an end.
  final : ∀ node ∈ graph.ends, graph.outgoing node.id = []

theorem end_known (graph : Graph) (final : Node) (member : final ∈ graph.ends) :
    final.id ∈ graph.ids :=
  List.mem_map_of_mem (List.mem_filter.mp member).1

namespace Tree

variable {graph : Graph} (tree : graph.Tree)

include tree

theorem one_entry (edge other : Edge) (member : edge ∈ graph.edges) (inside : other ∈ graph.edges)
    (same : edge.target = other.target) : edge = other :=
  List.inj_on_of_nodup_map tree.entries member inside same

theorem target_known (id : String) (edge : Edge) (leaves : edge ∈ graph.outgoing id) :
    edge.target ∈ graph.ids :=
  (tree.sound.connected edge (List.mem_filter.mp leaves).1).2

theorem nothing_behind (final : Node) (member : final ∈ graph.ends) (id : String) :
    ¬ TransGen (Linked graph.links) final.id id := by
  intro behind
  obtain ⟨next, link, _⟩ := Relation.TransGen.head'_iff.mp behind
  obtain ⟨edge, inside, source, _⟩ := (graph.linked_iff _ _).mp link
  have leaves : edge ∈ graph.outgoing final.id :=
    List.mem_filter.mpr ⟨inside, decide_eq_true source⟩
  rw [tree.final final member] at leaves
  cases leaves

theorem one_link (first second target : String) (link : Linked graph.links first target)
    (other : Linked graph.links second target) : first = second := by
  obtain ⟨edge, member, rfl, rfl⟩ := (graph.linked_iff _ _).mp link
  obtain ⟨same, inside, rfl, target⟩ := (graph.linked_iff _ _).mp other
  rw [tree.one_entry edge same member inside target.symm]

theorem start_first (start : Node) (only : graph.starts = [start]) (first : String) :
    ¬ Linked graph.links first start.id := by
  intro link
  obtain ⟨edge, member, _, target⟩ := (graph.linked_iff _ _).mp link
  have started : start ∈ graph.starts := only ▸ List.mem_singleton_self start
  obtain ⟨known, kind⟩ := List.mem_filter.mp started
  have none := (tree.sound.entered start known).mpr (of_decide_eq_true kind)
  rw [incoming, List.filter_eq_nil_iff] at none
  exact none edge member (decide_eq_true target)

theorem leads_before (first source target : String) (link : Linked graph.links source target)
    (behind : TransGen (Linked graph.links) first target) : Leads graph.links first source := by
  obtain ⟨last, leads, final⟩ := Relation.TransGen.tail'_iff.mp behind
  rwa [tree.one_link source last target link final]

theorem no_circle (id : String) : ¬ TransGen (Linked graph.links) id id := by
  obtain ⟨start, only⟩ := tree.sound.start
  intro circle
  have known : id ∈ graph.ids := by
    obtain ⟨_, _, link⟩ := Relation.TransGen.tail'_iff.mp circle
    obtain ⟨edge, member, _, rfl⟩ := (graph.linked_iff _ _).mp link
    exact (tree.sound.connected edge member).2
  have leads := tree.sound.reached start (only ▸ List.mem_singleton_self start) id known
  clear known
  induction leads with
  | refl =>
      obtain ⟨last, _, link⟩ := Relation.TransGen.tail'_iff.mp circle
      exact tree.start_first start only last link
  | tail _ link ih => exact ih (.head' link (tree.leads_before _ _ _ link circle))

theorem siblings_apart (source first second : String) (one : Linked graph.links source first)
    (two : Linked graph.links source second) : ¬ TransGen (Linked graph.links) first second :=
  fun behind => tree.no_circle source (.head' one (tree.leads_before _ _ _ two behind))

end Tree

theorem generic_tree (description : Description) (honorGateways : Bool) (token : String) :
    (generic description honorGateways token).Tree := by
  obtain ⟨start, final, turns, _, _, _, _, _, spine⟩ :=
    generic_along description honorGateways token
  have orderly := generic_orderly description honorGateways token
  refine ⟨(generic_sound description honorGateways token).1, spine.targets_distinct, ?_⟩
  intro node member
  obtain ⟨inside, kind⟩ := List.mem_filter.mp member
  rw [outgoing, List.filter_eq_nil_iff]
  intro edge listed leaves
  have suits := orderly.suited edge listed node inside (of_decide_eq_true leaves).symm
  exact suits.1 (of_decide_eq_true kind)

end ProcessDiagram.Graph
