import ProcessDiagram.Graph.Construction
import ProcessDiagram.Proofs.Each
import ProcessDiagram.Proofs.Graph.Draft
import ProcessDiagram.Proofs.Graph.Rooted

set_option autoImplicit false

namespace ProcessDiagram.Chain

structure Grown (token : String) (chain : Chain) : Prop where
  tracked : chain.draft.Tracked token
  rooted : (chain.draft.graph "").Rooted (Draft.nodeId 1)
  known : chain.last ∈ (chain.draft.graph "").ids
  left : ∀ node ∈ chain.draft.nodes, node.id ≠ chain.last → node.kind ≠ .endEvent →
    (chain.draft.graph "").outgoing node.id ≠ []

def shownLabel (condition : Option String) : Option String :=
  condition.filter (· ≠ "")

theorem shown_twice (condition : Option String) :
    shownLabel (shownLabel condition) = shownLabel condition := by
  cases condition with
  | none => rfl
  | some text =>
      by_cases empty : text = ""
      · rw [empty]
        rfl
      · simp [shownLabel]

-- The labels out of a node, with the one that waits for the next edge of the chain.
def awaited (chain : Chain) (id : String) : List String :=
  (chain.draft.graph "").branchLabels id ++
    if chain.last = id then (shownLabel chain.pending).toList else []

def Labelled (chain : Chain) : Prop :=
  ∀ id, (chain.awaited id).Nodup

theorem start_grown (token label : String) : Grown token (start (.empty token) label) := by
  constructor
  · exact Draft.tracked_add _ _ (Draft.tracked_empty token) _ _ _ _ _ _
  · constructor
    · exact List.pairwise_singleton _ _
    · intro edge member
      cases member
    · rfl
    · intro node member
      rw [List.mem_singleton.mp member]
      exact iff_of_true rfl rfl
    · intro id member
      rw [List.mem_singleton.mp member]
      exact .refl
  · exact List.mem_cons_self
  · intro node member apart
    rw [List.mem_singleton.mp member] at apart
    exact absurd rfl apart

theorem start_labelled (token label : String) : Labelled (start (.empty token) label) := by
  intro id
  have none : (start (.empty token) label).awaited id = [] := by
    rw [awaited]
    simp [Graph.branchLabels, Graph.outgoing, start, shownLabel, Draft.graph, Draft.addNode,
      Draft.empty]
  rw [none]
  exact List.Pairwise.nil

variable (token : String) (chain : Chain)

section Joining

variable (kind : NodeKind) (label stem : String) (role : Option String)
  (documentation actor : String)

def nextNode (draft : Draft) : Node :=
  ⟨draft.nextId, (draft.ids.allocate stem).1, kind, label, documentation, actor, role⟩

theorem graph_extend :
    ((chain.extend kind label stem role documentation actor).draft.graph "") =
      (chain.draft.graph "").attach (nextNode kind label stem role documentation actor chain.draft)
        ⟨chain.last, chain.draft.nextId, shownLabel chain.pending⟩ := rfl

theorem extend_awaited (id : String) :
    (chain.extend kind label stem role documentation actor).awaited id = chain.awaited id := by
  rw [awaited, graph_extend, Graph.labels_attach, awaited]
  have shown : (⟨chain.last, chain.draft.nextId, shownLabel chain.pending⟩ : Edge).label? =
      shownLabel chain.pending := shown_twice chain.pending
  have nothing : (shownLabel (chain.extend kind label stem role documentation actor).pending).toList =
      [] := rfl
  rw [shown, nothing, ite_self, List.append_nil]

variable (grown : Grown token chain)

include grown

theorem extend_grown (later : kind ≠ .startEvent) :
    Grown token (chain.extend kind label stem role documentation actor) := by
  have fresh : chain.draft.nextId ∉ (chain.draft.graph "").ids :=
    Draft.next_fresh token chain.draft grown.tracked
  constructor
  · exact Draft.tracked_connect _ _ (Draft.tracked_add _ _ grown.tracked _ _ _ _ _ _) _ _ _
  · rw [graph_extend]
    exact Graph.attach_rooted _ _ _ _ grown.rooted fresh grown.known rfl later
  · rw [graph_extend, Graph.ids_attach]
    exact List.mem_append_right _ List.mem_cons_self
  · intro node member apart open_end
    rw [graph_extend, Graph.outgoing_attach]
    rcases List.mem_append.mp member with old | new
    · by_cases last : chain.last = node.id
      · rw [if_pos last]
        exact List.append_ne_nil_of_right_ne_nil _ (List.cons_ne_nil _ _)
      · have leads := grown.left node old (fun same => last same.symm) open_end
        exact List.append_ne_nil_of_left_ne_nil leads _
    · rw [List.mem_singleton.mp new] at apart
      exact absurd rfl apart

theorem extend_unlabelled :
    ((chain.extend kind label stem role documentation actor).draft.graph "").branchLabels
      (chain.extend kind label stem role documentation actor).last = [] := by
  have fresh : chain.draft.nextId ∉ (chain.draft.graph "").ids :=
    Draft.next_fresh token chain.draft grown.tracked
  have apart : chain.last ≠ chain.draft.nextId := fun same => fresh (same ▸ grown.known)
  have none := Graph.no_outgoing _ (fun edge member => (grown.rooted.connected edge member).1)
    chain.draft.nextId fresh
  have last : (chain.extend kind label stem role documentation actor).last =
      chain.draft.nextId := rfl
  rw [graph_extend, Graph.labels_attach, Graph.branchLabels, last, none, if_neg apart]
  rfl

end Joining

def branch (kind : GatewayKind) (chain : Chain) (outcome : String) : Chain :=
  { chain with draft := endBranch kind chain.last chain.draft outcome }

theorem branch_all (kind : GatewayKind) (outcomes : List String) :
    outcomes.foldl (branch kind) chain =
      { chain with draft := outcomes.foldl (endBranch kind chain.last) chain.draft } := by
  induction outcomes generalizing chain with
  | nil => rfl
  | cons outcome rest ih =>
      rw [List.foldl_cons, ih, List.foldl_cons]
      rfl

def labelOf (kind : GatewayKind) (outcome : String) : Option String :=
  shownLabel (kind.condition outcome)

theorem label_of_own (kind : GatewayKind) (outcome label : String)
    (shown : labelOf kind outcome = some label) : label = outcome := by
  rw [labelOf, shownLabel, Option.filter_eq_some_iff, GatewayKind.condition] at shown
  split at shown
  · cases shown.1
  · exact (Option.some.inj shown.1).symm

theorem graph_branch (kind : GatewayKind) (outcome : String) :
    ((branch kind chain outcome).draft.graph "") =
      (chain.draft.graph "").attach
        (nextNode .endEvent ("End - " ++ outcome) ("EndEvent_" ++ outcome) none "" "" chain.draft)
        ⟨chain.last, chain.draft.nextId, labelOf kind outcome⟩ := rfl

theorem branch_labels (kind : GatewayKind) (outcome id : String) :
    ((branch kind chain outcome).draft.graph "").branchLabels id =
      (chain.draft.graph "").branchLabels id ++
        if chain.last = id then (labelOf kind outcome).toList else [] := by
  have shown : (⟨chain.last, chain.draft.nextId, labelOf kind outcome⟩ : Edge).label? =
      labelOf kind outcome := shown_twice (kind.condition outcome)
  rw [graph_branch, Graph.labels_attach, shown]

theorem branch_grown (kind : GatewayKind) (outcome : String) (grown : Grown token chain) :
    Grown token (branch kind chain outcome) := by
  have fresh : chain.draft.nextId ∉ (chain.draft.graph "").ids :=
    Draft.next_fresh token chain.draft grown.tracked
  constructor
  · exact Draft.tracked_connect _ _ (Draft.tracked_add _ _ grown.tracked _ _ _ _ _ _) _ _ _
  · rw [graph_branch]
    exact Graph.attach_rooted _ _ _ _ grown.rooted fresh grown.known rfl (nofun)
  · rw [graph_branch, Graph.ids_attach]
    exact List.mem_append_left _ grown.known
  · intro node member apart open_end
    rw [graph_branch, Graph.outgoing_attach]
    rcases List.mem_append.mp member with old | new
    · exact List.append_ne_nil_of_left_ne_nil (grown.left node old apart open_end) _
    · rw [List.mem_singleton.mp new] at open_end
      exact absurd rfl open_end

theorem branch_all_grown (kind : GatewayKind) (outcomes : List String) (grown : Grown token chain) :
    Grown token (outcomes.foldl (branch kind) chain) := by
  induction outcomes generalizing chain with
  | nil => exact grown
  | cons outcome rest ih => exact ih _ (branch_grown token chain kind outcome grown)

theorem branch_all_labels (kind : GatewayKind) (outcomes : List String) (id : String) :
    ((outcomes.foldl (branch kind) chain).draft.graph "").branchLabels id =
      (chain.draft.graph "").branchLabels id ++
        if chain.last = id then outcomes.filterMap (labelOf kind) else [] := by
  induction outcomes generalizing chain with
  | nil => simp
  | cons outcome rest ih =>
      rw [List.foldl_cons, ih, branch_labels, List.append_assoc]
      congr 1
      have same : (branch kind chain outcome).last = chain.last := rfl
      rw [same]
      by_cases last : chain.last = id
      · rw [if_pos last, if_pos last, if_pos last, List.filterMap_cons]
        cases labelOf kind outcome with
        | none => rfl
        | some label => rfl
      · rw [if_neg last, if_neg last, if_neg last]
        rfl

theorem branches_distinct (gateway : Gateway) : gateway.branches.Nodup :=
  Each.once_distinct _

theorem branch_out_labelled (gateway : Gateway) (labelled : Labelled chain)
    (bare : (chain.draft.graph "").branchLabels chain.last = []) :
    Labelled (chain.branchOut gateway) := by
  intro id
  have distinct := branches_distinct gateway
  rw [branchOut]
  split
  · exact labelled id
  · rename_i first others shape
    rw [shape] at distinct
    have drafts := congrArg Chain.draft (branch_all chain gateway.kind others)
    rw [awaited, ← drafts, branch_all_labels]
    by_cases last : chain.last = id
    · rw [if_pos last, if_pos last, ← last, bare, List.nil_append]
      have order : (others ++ [first]).Perm (first :: others) := List.perm_append_singleton _ _
      have single := (order.nodup_iff.mpr distinct).filterMap
        fun first second label one two =>
          (label_of_own gateway.kind first label one).symm.trans
            (label_of_own gateway.kind second label two)
      have front : [first].filterMap (labelOf gateway.kind) =
          (shownLabel (gateway.kind.condition first)).toList := by
        rw [List.filterMap_cons, labelOf]
        cases shownLabel (gateway.kind.condition first) with
        | none => rfl
        | some label => rfl
      rwa [List.filterMap_append, front] at single
    · rw [if_neg last, if_neg last, List.append_nil, List.append_nil]
      have kept := labelled id
      rw [awaited, if_neg last, List.append_nil] at kept
      exact kept

theorem branch_out_grown (gateway : Gateway) (grown : Grown token chain) :
    Grown token (chain.branchOut gateway) := by
  rw [branchOut]
  split
  · exact grown
  · rename_i first others _
    have all := branch_all_grown token chain gateway.kind others grown
    rw [branch_all] at all
    exact ⟨all.tracked, all.rooted, all.known, all.left⟩

theorem add_step_grown (gateways : List Gateway) (entry : Step × Nat) (grown : Grown token chain)
    (labelled : Labelled chain) :
    Grown token (addStep gateways chain entry) ∧ Labelled (addStep gateways chain entry) := by
  obtain ⟨step, index⟩ := entry
  have extended : ∀ kind, kind ≠ NodeKind.startEvent →
      Grown token (chain.extend kind step.name (stemOf step (index + 1)) none step.description
        step.actor) ∧
      Labelled (chain.extend kind step.name (stemOf step (index + 1)) none step.description
        step.actor) := by
    intro kind later
    refine ⟨extend_grown token chain _ _ _ _ _ _ grown later, ?_⟩
    intro id
    rw [extend_awaited]
    exact labelled id
  rw [addStep]
  cases Description.gatewayOf? gateways step with
  | none =>
      apply extended
      cases step.kind <;> decide
  | some gateway =>
      obtain ⟨wider, good⟩ := extended gateway.kind.nodeKind (by cases gateway.kind <;> decide)
      exact ⟨branch_out_grown token _ gateway wider, branch_out_labelled _ gateway good
        (extend_unlabelled token chain _ _ _ _ _ _ grown)⟩

theorem steps_grown (label : String) (gateways : List Gateway) (steps : List Step) :
    Grown token (ofSteps (.empty token) label gateways steps) ∧
      Labelled (ofSteps (.empty token) label gateways steps) := by
  rw [ofSteps]
  have first := start_grown token label
  have bare := start_labelled token label
  generalize start (.empty token) label = chain at first bare
  induction steps.zipIdx generalizing chain with
  | nil => exact ⟨first, bare⟩
  | cons entry rest ih =>
      obtain ⟨grown, labelled⟩ := add_step_grown token chain gateways entry first bare
      exact ih _ grown labelled

theorem finish_sound (label name : String) (archetype : Option String) (grown : Grown token chain)
    (labelled : Labelled chain) :
    ((chain.finish label).graph name archetype).Sound ∧
      ((chain.finish label).graph name archetype).ends ≠ [] := by
  have final := extend_grown token chain .endEvent label "EndEvent" (some "end") "" "" grown
    (by decide)
  have fresh := Draft.next_fresh token chain.draft grown.tracked
  obtain ⟨start, only, first⟩ := List.map_eq_singleton_iff.mp final.rooted.starts
  refine ⟨⟨final.rooted.distinct, final.tracked.distinct, final.rooted.connected, ⟨start, only⟩,
    final.rooted.entered, ?_, ?_, ?_⟩, ?_⟩
  · -- Only the last node may lead nowhere, and that one is the end.
    intro node member none
    by_contra open_end
    by_cases last : node.id = chain.draft.nextId
    · rcases List.mem_append.mp member with old | new
      · exact fresh (last ▸ List.mem_map_of_mem old)
      · rw [List.mem_singleton.mp new] at open_end
        exact open_end rfl
    · exact final.left node member last open_end none
  · intro other member id known
    have same : other = start := List.mem_singleton.mp (only ▸ member)
    rw [same, first]
    exact final.rooted.reached id known
  · intro node _ _
    have waiting := labelled node.id
    rw [← extend_awaited chain .endEvent label "EndEvent" (some "end") "" ""] at waiting
    exact (List.nodup_append.mp waiting).1
  · intro none
    have member : nextNode .endEvent label "EndEvent" (some "end") "" "" chain.draft ∈
        ((chain.finish label).graph name archetype).ends :=
      List.mem_filter.mpr ⟨List.mem_append_right _ List.mem_cons_self, rfl⟩
    rw [none] at member
    cases member

end ProcessDiagram.Chain
