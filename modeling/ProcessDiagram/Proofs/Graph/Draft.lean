import ProcessDiagram.Archetype.Basic
import ProcessDiagram.Proofs.Identifier.Allocator

set_option autoImplicit false

namespace ProcessDiagram.Draft

open Identifier (isHex)
open Allocator (Issued)

structure Tracked (token : String) (draft : Draft) : Prop where
  kept : draft.ids.token = token
  numbered : draft.nodes.map Node.id = (List.range draft.nodes.length).map fun index =>
    nodeId (index + 1)
  used : ∀ node ∈ draft.nodes, node.elementId ∈ draft.ids.used
  distinct : (draft.nodes.map Node.elementId).Nodup
  allocated : ∀ node ∈ draft.nodes, ∃ (ids : Allocator) (stem : String),
    ids.token = token ∧ node.elementId = (ids.allocate stem).1

theorem tracked_empty (token : String) : Tracked token (empty token) := by
  refine ⟨rfl, rfl, ?_, List.Pairwise.nil, ?_⟩
  · intro node member
    cases member
  · intro node member
    cases member

variable (token : String) (draft : Draft) (tracked : Tracked token draft)

include tracked in
theorem tracked_issued (hex : ∀ c ∈ token.toList, isHex c) (nonempty : token.toList ≠ []) :
    ∀ node ∈ draft.nodes, Issued node.elementId := by
  intro node member
  obtain ⟨ids, stem, rfl, chosen⟩ := tracked.allocated node member
  rw [chosen]
  exact Allocator.allocate_issued ids stem hex nonempty

section Adding

variable (kind : NodeKind) (label stem : String) (role : Option String)
  (documentation actor : String)

theorem nodes_add : (draft.addNode kind label stem role documentation actor).nodes =
    draft.nodes ++ [⟨draft.nextId, (draft.ids.allocate stem).1, kind, label, documentation, actor,
      role⟩] := rfl

include tracked

theorem tracked_add : Tracked token (draft.addNode kind label stem role documentation actor) := by
  have fresh := Allocator.allocate_fresh draft.ids stem
  have used : (draft.addNode kind label stem role documentation actor).ids.used =
      (draft.ids.allocate stem).1 :: draft.ids.used := Allocator.allocate_used draft.ids stem
  have kept : (draft.addNode kind label stem role documentation actor).ids.token =
      draft.ids.token := Allocator.allocate_token draft.ids stem
  constructor
  · rw [kept]
    exact tracked.kept
  · rw [nodes_add, List.map_append, tracked.numbered, List.length_append, List.length_singleton,
      List.range_succ, List.map_append]
    rfl
  · intro node member
    rw [used]
    rcases List.mem_append.mp member with old | last
    · exact List.mem_cons_of_mem _ (tracked.used node old)
    · rw [List.mem_singleton.mp last]
      exact List.mem_cons_self
  · rw [nodes_add, List.map_append]
    refine List.nodup_append.mpr ⟨tracked.distinct, List.pairwise_singleton _ _, ?_⟩
    rintro id member _ last rfl
    obtain ⟨node, old, same⟩ := List.mem_map.mp member
    have chosen : node.elementId = (draft.ids.allocate stem).1 :=
      same.trans (List.mem_singleton.mp last)
    exact fresh (chosen ▸ tracked.used node old)
  · intro node member
    rcases List.mem_append.mp member with old | last
    · exact tracked.allocated node old
    · rw [List.mem_singleton.mp last]
      exact ⟨draft.ids, stem, tracked.kept, rfl⟩

end Adding

theorem nodes_chain (ids : List String) :
    (draft.chain ids).nodes = draft.nodes ∧ (draft.chain ids).ids = draft.ids := by
  induction ids generalizing draft with
  | nil => exact ⟨rfl, rfl⟩
  | cons first rest ih =>
      cases rest with
      | nil => exact ⟨rfl, rfl⟩
      | cons second others =>
          rw [chain]
          exact ih (draft.connect first second)

include tracked

theorem tracked_connect (source target : String) (condition : Option String) :
    Tracked token (draft.connect source target condition) :=
  ⟨tracked.kept, tracked.numbered, tracked.used, tracked.distinct, tracked.allocated⟩

theorem tracked_reserve (id : String) : Tracked token (draft.reserve id) :=
  ⟨tracked.kept, tracked.numbered,
    fun node member => List.mem_cons_of_mem _ (tracked.used node member), tracked.distinct,
    tracked.allocated⟩

theorem tracked_run (description : Description) (action : Action) :
    Tracked token (action.run description draft) := by
  cases action with
  | node kind label stem role documentation actor =>
      exact tracked_add token draft tracked _ _ _ _ _ _
  | task label stem role =>
      rw [Action.run]
      split
      · exact tracked_add token draft tracked _ _ _ _ _ _
      · exact tracked_add token draft tracked _ _ _ _ _ _
  | connect source target condition => exact tracked_connect token draft tracked _ _ _
  | reserve id => exact tracked_reserve token draft tracked id
  | chain ids =>
      obtain ⟨nodes, allocator⟩ := nodes_chain draft ids
      rw [Action.run]
      constructor
      · rw [allocator]
        exact tracked.kept
      · rw [nodes]
        exact tracked.numbered
      · rw [nodes, allocator]
        exact tracked.used
      · rw [nodes]
        exact tracked.distinct
      · rw [nodes]
        exact tracked.allocated

theorem next_fresh : draft.nextId ∉ draft.nodes.map Node.id := by
  rw [tracked.numbered]
  intro member
  obtain ⟨index, bound, same⟩ := List.mem_map.mp member
  have number := node_id_injective _ _ same
  rw [List.mem_range] at bound
  omega

end ProcessDiagram.Draft
