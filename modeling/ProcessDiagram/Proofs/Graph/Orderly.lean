import ProcessDiagram.Proofs.Graph.Construction

set_option autoImplicit false

namespace ProcessDiagram

-- An edge out of a node: ends have none, only a choice has conditions and an exclusive one shows all.
def NodeKind.Suits (kind : NodeKind) (condition : Option String) : Prop :=
  kind ≠ .endEvent ∧
    (condition ≠ none → kind = .exclusiveGateway ∨ kind = .inclusiveGateway) ∧
    (kind = .exclusiveGateway → condition.filter (· ≠ "") ≠ none)

instance (kind : NodeKind) (condition : Option String) : Decidable (kind.Suits condition) :=
  inferInstanceAs (Decidable (_ ∧ _ ∧ _))

theorem NodeKind.plain_suits (kind : NodeKind) (further : kind ≠ .endEvent)
    (free : kind ≠ .exclusiveGateway) : kind.Suits none :=
  ⟨further, fun guarded => absurd rfl guarded, fun exclusive => absurd exclusive free⟩

theorem StepKind.suits (kind : StepKind) : kind.nodeKind.Suits none := by
  cases kind <;> decide

theorem GatewayKind.suits (kind : GatewayKind) (outcome : String) (nonempty : outcome ≠ "") :
    kind.nodeKind.Suits (Chain.labelOf kind outcome) := by
  cases kind with
  | parallel => exact NodeKind.plain_suits _ (by decide) (by decide)
  | exclusive =>
      simp [NodeKind.Suits, Chain.labelOf, Chain.shownLabel, condition, nodeKind, nonempty]
  | inclusive =>
      simp [NodeKind.Suits, Chain.labelOf, Chain.shownLabel, condition, nodeKind, nonempty]

namespace Graph

structure Orderly (graph : Graph) : Prop where
  forward : ∀ edge ∈ graph.edges, graph.ids.idxOf edge.source < graph.ids.idxOf edge.target
  suited : ∀ edge ∈ graph.edges, ∀ node ∈ graph.nodes, node.id = edge.source →
    node.kind.Suits edge.condition

variable (graph : Graph)

theorem attach_orderly (node : Node) (edge : Edge) (orderly : graph.Orderly)
    (connected : ∀ edge ∈ graph.edges, edge.source ∈ graph.ids ∧ edge.target ∈ graph.ids)
    (fresh : node.id ∉ graph.ids) (source : edge.source ∈ graph.ids) (target : edge.target = node.id)
    (suits : ∀ other ∈ graph.nodes, other.id = edge.source → other.kind.Suits edge.condition) :
    (graph.attach node edge).Orderly := by
  constructor
  · intro other member
    rw [ids_attach]
    rcases List.mem_append.mp member with old | last
    · obtain ⟨known, aimed⟩ := connected other old
      rw [List.idxOf_append_of_mem known, List.idxOf_append_of_mem aimed]
      exact orderly.forward other old
    · rw [List.mem_singleton.mp last, target, List.idxOf_append_of_mem source,
        List.idxOf_append_of_notMem fresh]
      exact Nat.lt_add_right _ (List.idxOf_lt_length_of_mem source)
  · intro other member leaving inside same
    rcases List.mem_append.mp member with old | last
    · rcases List.mem_append.mp inside with known | new
      · exact orderly.suited other old leaving known same
      · rw [List.mem_singleton.mp new] at same
        exact absurd (same ▸ (connected other old).1) fresh
    · rw [List.mem_singleton.mp last] at same ⊢
      rcases List.mem_append.mp inside with known | new
      · exact suits leaving known same
      · rw [List.mem_singleton.mp new] at same
        exact absurd (same ▸ source) fresh

theorem orderly_alike (twin : Graph)
    (nodes : graph.nodes.map Node.idAndKind = twin.nodes.map Node.idAndKind)
    (edges : graph.edges = twin.edges) (orderly : twin.Orderly) : graph.Orderly := by
  constructor
  · rw [ids_alike graph twin nodes, edges]
    exact orderly.forward
  · intro edge member node inside same
    obtain ⟨other, listed, id, kind⟩ := node_alike graph twin nodes node inside
    rw [← kind]
    exact orderly.suited edge (edges ▸ member) other listed (id.trans same)

end Graph

namespace Chain

variable (token : String) (chain : Chain)

-- The last node may be left by an edge with the condition that waits.
def Ready : Prop :=
  ∀ node ∈ chain.draft.nodes, node.id = chain.last → node.kind.Suits (shownLabel chain.pending)

def EndsWith (kind : NodeKind) : Prop :=
  ∀ node ∈ chain.draft.nodes, node.id = chain.last → node.kind = kind

theorem start_orderly (label : String) :
    ((start (.empty token) label).draft.graph "").Orderly ∧ (start (.empty token) label).Ready := by
  refine ⟨⟨?_, ?_⟩, ?_⟩
  · intro edge member
    cases member
  · intro edge member
    cases member
  · intro node member _
    rw [List.mem_singleton.mp member]
    exact NodeKind.plain_suits _ nofun nofun

section Joining

variable (kind : NodeKind) (label stem : String) (role : Option String)
  (documentation actor : String) (grown : Grown token chain)

include grown

theorem extend_ends :
    (chain.extend kind label stem role documentation actor).EndsWith kind := by
  intro node member last
  rcases List.mem_append.mp member with old | new
  · have same : node.id = chain.draft.nextId := last
    have fresh := Draft.next_fresh token chain.draft grown.tracked
    exact absurd (same ▸ List.mem_map_of_mem old) fresh
  · rw [List.mem_singleton.mp new]

theorem extend_orderly (orderly : (chain.draft.graph "").Orderly) (ready : Ready chain) :
    ((chain.extend kind label stem role documentation actor).draft.graph "").Orderly := by
  rw [graph_extend]
  exact Graph.attach_orderly _ _ _ orderly grown.rooted.connected
    (Draft.next_fresh token chain.draft grown.tracked) grown.known rfl ready

end Joining

theorem branch_orderly (kind : GatewayKind) (outcome : String) (nonempty : outcome ≠ "")
    (grown : Grown token chain) (orderly : (chain.draft.graph "").Orderly)
    (ends : chain.EndsWith kind.nodeKind) :
    ((branch kind chain outcome).draft.graph "").Orderly ∧
      (branch kind chain outcome).EndsWith kind.nodeKind := by
  have fresh := Draft.next_fresh token chain.draft grown.tracked
  constructor
  · rw [graph_branch]
    refine Graph.attach_orderly _ _ _ orderly grown.rooted.connected fresh grown.known rfl ?_
    intro node member last
    rw [ends node member last]
    exact kind.suits outcome nonempty
  · intro node member last
    rcases List.mem_append.mp member with old | new
    · exact ends node old last
    · rw [List.mem_singleton.mp new] at last
      have same : chain.draft.nextId = chain.last := last
      exact absurd (same ▸ grown.known) fresh

theorem branch_all_orderly (kind : GatewayKind) (outcomes : List String)
    (nonempty : ∀ outcome ∈ outcomes, outcome ≠ "") (grown : Grown token chain)
    (orderly : (chain.draft.graph "").Orderly) (ends : chain.EndsWith kind.nodeKind) :
    ((outcomes.foldl (branch kind) chain).draft.graph "").Orderly ∧
      (outcomes.foldl (branch kind) chain).EndsWith kind.nodeKind := by
  induction outcomes generalizing chain with
  | nil => exact ⟨orderly, ends⟩
  | cons outcome rest ih =>
      obtain ⟨first, others⟩ := List.forall_mem_cons.mp nonempty
      obtain ⟨further, still⟩ := branch_orderly token chain kind outcome first grown orderly ends
      exact ih _ others (branch_grown token chain kind outcome grown) further still

theorem branches_nonempty (gateway : Gateway) : ∀ outcome ∈ gateway.branches, outcome ≠ "" := by
  intro outcome member
  rw [Gateway.branches, List.mem_eraseDups] at member
  exact of_decide_eq_true (List.mem_filter.mp member).2

theorem gateway_branches (gateways : List Gateway) (step : Step) (gateway : Gateway)
    (found : Description.gatewayOf? gateways step = some gateway) : gateway.branches ≠ [] := by
  rw [Description.gatewayOf?] at found
  split at found
  · obtain ⟨wanted, _, chosen⟩ := List.exists_of_findSome?_eq_some found
    have several := List.find?_some chosen
    rw [Bool.and_eq_true, decide_eq_true_eq] at several
    exact List.ne_nil_of_length_pos (Nat.lt_of_lt_of_le Nat.zero_lt_two several.1)
  · cases found

theorem branch_out_orderly (gateway : Gateway) (several : gateway.branches ≠ [])
    (grown : Grown token chain) (orderly : (chain.draft.graph "").Orderly)
    (ends : chain.EndsWith gateway.kind.nodeKind) :
    ((chain.branchOut gateway).draft.graph "").Orderly ∧ (chain.branchOut gateway).Ready := by
  have nonempty := branches_nonempty gateway
  rw [branchOut]
  split
  · rename_i none
    exact absurd none several
  · rename_i first others shape
    rw [shape] at nonempty
    obtain ⟨first_nonempty, others_nonempty⟩ := List.forall_mem_cons.mp nonempty
    obtain ⟨further, still⟩ :=
      branch_all_orderly token chain gateway.kind others others_nonempty grown orderly ends
    rw [branch_all] at further still
    refine ⟨further, fun node member last => ?_⟩
    rw [still node member last]
    exact gateway.kind.suits first first_nonempty

theorem add_step_orderly (gateways : List Gateway) (entry : Step × Nat) (grown : Grown token chain)
    (orderly : (chain.draft.graph "").Orderly) (ready : Ready chain) :
    ((addStep gateways chain entry).draft.graph "").Orderly ∧
      (addStep gateways chain entry).Ready := by
  obtain ⟨step, index⟩ := entry
  rw [addStep]
  cases found : Description.gatewayOf? gateways step with
  | none =>
      refine ⟨extend_orderly token chain _ _ _ _ _ _ grown orderly ready, fun node member last => ?_⟩
      rw [extend_ends token chain _ _ _ _ _ _ grown node member last]
      exact step.kind.suits
  | some gateway =>
      exact branch_out_orderly token _ gateway (gateway_branches gateways step gateway found)
        (extend_grown token chain _ _ _ _ _ _ grown (by cases gateway.kind <;> decide))
        (extend_orderly token chain _ _ _ _ _ _ grown orderly ready)
        (extend_ends token chain _ _ _ _ _ _ grown)

theorem steps_orderly (label : String) (gateways : List Gateway) (steps : List Step) :
    ((ofSteps (.empty token) label gateways steps).draft.graph "").Orderly ∧
      (ofSteps (.empty token) label gateways steps).Ready := by
  rw [ofSteps]
  have grown := start_grown token label
  have labelled := start_labelled token label
  obtain ⟨orderly, ready⟩ := start_orderly token label
  generalize start (.empty token) label = chain at grown labelled orderly ready
  induction steps.zipIdx generalizing chain with
  | nil => exact ⟨orderly, ready⟩
  | cons entry rest ih =>
      obtain ⟨wider, distinct⟩ := add_step_grown token chain gateways entry grown labelled
      obtain ⟨further, still⟩ := add_step_orderly token chain gateways entry grown orderly ready
      exact ih _ wider distinct further still

end Chain

theorem Archetype.shapes_orderly : ∀ shape ∈ shapes, shape.outline.Orderly := by
  simp only [shapes, List.forall_mem_cons]
  exact ⟨⟨by decide +kernel, by decide +kernel⟩, ⟨by decide +kernel, by decide +kernel⟩, by simp⟩

namespace Graph

theorem generic_orderly (description : Description) (honorGateways : Bool) (token : String) :
    (generic description honorGateways token).Orderly := by
  obtain ⟨grown, _⟩ := Chain.steps_grown token description.startLabel
    (if honorGateways then description.gateways else []) description.steps
  obtain ⟨orderly, ready⟩ := Chain.steps_orderly token description.startLabel
    (if honorGateways then description.gateways else []) description.steps
  have final := Chain.extend_orderly token _ .endEvent description.endLabel "EndEvent" (some "end")
    "" "" grown orderly ready
  exact ⟨final.forward, final.suited⟩

variable {Coordinate : Type}

theorem description_orderly (coordinate : Int → Coordinate) (honorGateways : Bool)
    (description : Description) (token : String) :
    ∃ graph, ofDescription (Archetype.catalog coordinate) honorGateways description token =
      .ok graph ∧ graph.Sound ∧ graph.Orderly := by
  obtain ⟨graph, found, origin⟩ := description_accepted coordinate honorGateways description token
  obtain ⟨sound, _⟩ := accepted_drafted _ honorGateways description token graph found
  refine ⟨graph, found, sound, ?_⟩
  rcases origin with rfl | ⟨shape, member, outlines⟩
  · exact generic_orderly description honorGateways token
  · exact orderly_alike graph shape.outline outlines.nodes outlines.edges
      (Archetype.shapes_orderly shape member)

end Graph

end ProcessDiagram
