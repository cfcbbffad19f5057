import ProcessDiagram.Proofs.Description.Branching
import ProcessDiagram.Proofs.Graph.Construction
import ProcessDiagram.Proofs.Graph.Orderly
import ProcessDiagram.Proofs.Graph.Spine

set_option autoImplicit false

namespace ProcessDiagram

open Description (Honours)

structure Describes (step : Step) (kind : NodeKind) (node : Node) : Prop where
  kind : node.kind = kind
  label : node.label = step.name
  documentation : node.documentation = step.description
  actor : node.actor = step.actor

-- An end for one outcome, and the condition of the edge to it.
structure LeadsTo (kind : GatewayKind) (outcome : String) (exit : Node × Option String) : Prop where
  ends : exit.1.kind = .endEvent
  label : exit.1.label = "End - " ++ outcome
  condition : exit.2 = kind.condition outcome

inductive Becomes (gateways : List Gateway) (step : Step) : Turn → Prop
  | plain (node : Node) (free : ∀ gateway, ¬ Honours gateways step gateway)
      (described : Describes step step.kind.nodeKind node) :
      Becomes gateways step ⟨node, [], none⟩
  | branching (node : Node) (gateway : Gateway) (first : String) (others : List String)
      (exits : List (Node × Option String)) (honoured : Honours gateways step gateway)
      (described : Describes step gateway.kind.nodeKind node)
      (outcomes : gateway.branches = first :: others)
      (ends : List.Forall₂ (LeadsTo gateway.kind) others exits) :
      Becomes gateways step ⟨node, exits, gateway.kind.condition first⟩

theorem GatewayKind.condition_shown (kind : GatewayKind) (outcome : String)
    (nonempty : outcome ≠ "") : Chain.labelOf kind outcome = kind.condition outcome := by
  rw [Chain.labelOf, Chain.shownLabel, condition]
  by_cases parallel : kind = .parallel
  · rw [if_pos parallel]
    rfl
  · rw [if_neg parallel]
    simp [nonempty]

namespace Chain

-- A chain is at its last turn, whose edge onward is still to come.
structure Along (chain : Chain) (before : List Turn) (turn : Turn) : Prop where
  nodes : chain.draft.nodes = before.flatMap Turn.nodes ++ turn.nodes
  edges : chain.draft.edges = Turn.edges turn.node.id before ++ turn.exitEdges
  last : chain.last = turn.node.id
  onward : shownLabel chain.pending = turn.onward

def exitFor (chain : Chain) (kind : GatewayKind) (outcome : String) : Node × Option String :=
  (nextNode .endEvent ("End - " ++ outcome) ("EndEvent_" ++ outcome) none "" "" chain.draft,
    labelOf kind outcome)

theorem extend_nodes (chain : Chain) (kind : NodeKind) (label stem : String) (role : Option String)
    (documentation actor : String) :
    (chain.extend kind label stem role documentation actor).draft.nodes =
      chain.draft.nodes ++ [nextNode kind label stem role documentation actor chain.draft] := rfl

theorem extend_edges (chain : Chain) (kind : NodeKind) (label stem : String) (role : Option String)
    (documentation actor : String) :
    (chain.extend kind label stem role documentation actor).draft.edges =
      chain.draft.edges ++ [⟨chain.last, chain.draft.nextId, shownLabel chain.pending⟩] := rfl

theorem branch_nodes (chain : Chain) (kind : GatewayKind) (outcome : String) :
    (branch kind chain outcome).draft.nodes =
      chain.draft.nodes ++ [(exitFor chain kind outcome).1] := rfl

theorem branch_edges (chain : Chain) (kind : GatewayKind) (outcome : String) :
    (branch kind chain outcome).draft.edges = chain.draft.edges ++
      [⟨chain.last, (exitFor chain kind outcome).1.id, (exitFor chain kind outcome).2⟩] := rfl

theorem branch_out_all (chain : Chain) (gateway : Gateway) (first : String) (others : List String)
    (outcomes : gateway.branches = first :: others) :
    chain.branchOut gateway =
      { others.foldl (branch gateway.kind) chain with pending := gateway.kind.condition first } := by
  rw [branch_all, branchOut, outcomes]

theorem start_along (token label : String) :
    ∃ node, node.kind = .startEvent ∧ node.label = label ∧
      Along (start (.empty token) label) [] ⟨node, [], none⟩ :=
  ⟨_, rfl, rfl, rfl, rfl, rfl, rfl⟩

variable {chain : Chain} {before : List Turn} {turn : Turn} (along : chain.Along before turn)

include along

theorem extend_along (kind : NodeKind) (label stem : String) (role : Option String)
    (documentation actor : String) :
    Along (chain.extend kind label stem role documentation actor) (before ++ [turn])
      ⟨nextNode kind label stem role documentation actor chain.draft, [], none⟩ := by
  constructor
  · rw [extend_nodes, along.nodes, List.flatMap_append, List.flatMap_singleton]
    rfl
  · rw [extend_edges, along.edges, along.last, along.onward, Turn.edges_snoc, List.append_assoc]
    exact (List.append_nil _).symm
  · rfl
  · rfl

theorem finish_along (label : String) :
    ∃ final, final.kind = .endEvent ∧ final.label = label ∧
      (chain.finish label).nodes = (before ++ [turn]).flatMap Turn.nodes ++ [final] ∧
      (chain.finish label).edges = Turn.edges final.id (before ++ [turn]) := by
  have ended := extend_along along .endEvent label "EndEvent" (some "end") "" ""
  exact ⟨nextNode .endEvent label "EndEvent" (some "end") "" "" chain.draft, rfl, rfl, ended.nodes,
    ended.edges.trans (List.append_nil _)⟩

theorem branch_along (kind : GatewayKind) (outcome : String) :
    Along (branch kind chain outcome) before
      { turn with exits := turn.exits ++ [exitFor chain kind outcome] } := by
  constructor
  · rw [branch_nodes, along.nodes, Turn.nodes, Turn.nodes, List.map_append, List.append_assoc]
    rfl
  · rw [branch_edges, along.edges, along.last, Turn.exitEdges, Turn.exitEdges, List.map_append,
      List.append_assoc]
    rfl
  · exact along.last
  · exact along.onward

theorem branch_all_along (kind : GatewayKind) (outcomes : List String)
    (nonempty : ∀ outcome ∈ outcomes, outcome ≠ "") :
    ∃ exits, List.Forall₂ (LeadsTo kind) outcomes exits ∧
      Along (outcomes.foldl (branch kind) chain) before
        { turn with exits := turn.exits ++ exits } := by
  induction outcomes generalizing chain turn with
  | nil => exact ⟨[], .nil, by simpa using along⟩
  | cons outcome rest ih =>
      obtain ⟨first, others⟩ := List.forall_mem_cons.mp nonempty
      obtain ⟨exits, ends, further⟩ := ih (branch_along along kind outcome) others
      refine ⟨exitFor chain kind outcome :: exits,
        .cons ⟨rfl, rfl, kind.condition_shown outcome first⟩ ends, ?_⟩
      simpa using further

theorem add_step_along (gateways : List Gateway) (entry : Step × Nat) :
    ∃ next, Becomes gateways entry.1 next ∧
      Along (addStep gateways chain entry) (before ++ [turn]) next := by
  obtain ⟨step, index⟩ := entry
  have described : ∀ kind, Describes step kind (nextNode kind step.name (stemOf step (index + 1))
      none step.description step.actor chain.draft) := fun _ => ⟨rfl, rfl, rfl, rfl⟩
  rw [addStep]
  cases found : Description.gatewayOf? gateways step with
  | none =>
      have free : ∀ gateway, ¬ Honours gateways step gateway := by
        intro gateway honoured
        rw [(Description.honours_iff gateways step gateway).mpr honoured] at found
        cases found
      exact ⟨_, .plain _ free (described _), extend_along along _ _ _ _ _ _⟩
  | some gateway =>
      have honoured := (Description.honours_iff gateways step gateway).mp found
      have nonempty := branches_nonempty gateway
      have extended := extend_along along gateway.kind.nodeKind step.name (stemOf step (index + 1))
        none step.description step.actor
      cases outcomes : gateway.branches with
      | nil => exact absurd outcomes (gateway_branches gateways step gateway found)
      | cons first others =>
          rw [outcomes, List.forall_mem_cons] at nonempty
          obtain ⟨exits, ends, further⟩ :=
            branch_all_along extended gateway.kind others nonempty.2
          refine ⟨_, .branching _ gateway first others exits honoured
            (described _) outcomes ends, ?_⟩
          change Along (branchOut _ gateway) _ _
          rw [branch_out_all _ gateway first others outcomes]
          exact ⟨further.nodes, further.edges, further.last,
            gateway.kind.condition_shown first nonempty.1⟩

theorem steps_along (gateways : List Gateway) (entries : List (Step × Nat)) :
    ∃ turns, List.Forall₂ (Becomes gateways) (entries.map Prod.fst) turns ∧
      ∃ front last, before ++ turn :: turns = front ++ [last] ∧
        Along (entries.foldl (addStep gateways) chain) front last := by
  induction entries generalizing chain before turn with
  | nil => exact ⟨[], .nil, before, turn, rfl, along⟩
  | cons entry rest ih =>
      obtain ⟨next, first, stepped⟩ := add_step_along along gateways entry
      obtain ⟨turns, others, front, last, split, further⟩ := ih stepped
      refine ⟨next :: turns, .cons first others, front, last, ?_, further⟩
      rw [← split, List.append_assoc]
      rfl

end Chain

def furtherOutcomes (gateways : List Gateway) (step : Step) : Nat :=
  match Description.gatewayOf? gateways step with
  | some gateway => gateway.branches.length - 1
  | none => 0

namespace Becomes

variable {gateways : List Gateway} {step : Step} {turn : Turn}

theorem exits_count (becomes : Becomes gateways step turn) :
    turn.exits.length = furtherOutcomes gateways step := by
  rw [furtherOutcomes]
  cases becomes with
  | plain node free described =>
      cases found : Description.gatewayOf? gateways step with
      | none => rfl
      | some gateway => exact absurd ((Description.honours_iff _ _ _).mp found) (free gateway)
  | branching node gateway first others exits honoured described outcomes ends =>
      rw [(Description.honours_iff _ _ _).mpr honoured]
      simp [outcomes, ends.length_eq]

theorem exit_conditions (kind : GatewayKind) (outcomes : List String)
    (exits : List (Node × Option String)) (ends : List.Forall₂ (LeadsTo kind) outcomes exits) :
    exits.map Prod.snd = outcomes.map kind.condition :=
  Each.map_same kind.condition Prod.snd outcomes exits (ends.imp fun _ _ leads => leads.condition)

theorem choice_shown (becomes : Becomes gateways step turn) (gateway : Gateway)
    (honoured : Honours gateways step gateway) (chooses : gateway.kind ≠ .parallel) :
    turn.onward = gateway.branches.head? ∧
      (turn.exits.map Prod.snd ++ [turn.onward]).Perm (gateway.branches.map some) := by
  cases becomes with
  | plain node free described => exact absurd honoured (free gateway)
  | branching node other first others exits taken described outcomes ends =>
      obtain rfl := Description.honours_unique gateways step gateway other honoured taken
      have shown : gateway.kind.condition = some := by
        funext outcome
        rw [GatewayKind.condition, if_neg chooses]
      rw [exit_conditions gateway.kind others exits ends, outcomes, shown]
      exact ⟨rfl, List.perm_append_singleton _ _⟩

theorem nothing_shown (becomes : Becomes gateways step turn)
    (free : ∀ gateway, Honours gateways step gateway → gateway.kind = .parallel) :
    turn.onward = none ∧ ∀ exit ∈ turn.exits, exit.2 = none := by
  cases becomes with
  | plain node free described => exact ⟨rfl, fun _ none => (nomatch none)⟩
  | branching node gateway first others exits taken described outcomes ends =>
      have hidden : ∀ outcome, gateway.kind.condition outcome = none := by
        intro outcome
        rw [GatewayKind.condition, if_pos (free gateway taken)]
      refine ⟨hidden first, fun exit member => ?_⟩
      obtain ⟨outcome, paired⟩ := Each.partner _ _ _ ends exit member
      rw [(List.forall₂_iff_zip.mp ends).2 paired |>.condition, hidden]

end Becomes

namespace Graph

-- What the graph of a line is, with the start and the end around its turns.
structure Unfolds (graph : Graph) (turns : List Turn) (start final : Node) : Prop where
  begins : start.kind = .startEvent
  ends : final.kind = .endEvent
  nodes : graph.nodes = start :: turns.flatMap Turn.nodes ++ [final]
  distinct : graph.ids.Nodup
  starts : graph.starts = [start]
  fromStart : graph.outgoing start.id = [⟨start.id, Turn.entry final.id turns, none⟩]
  fromTurn : ∀ before turn after, turns = before ++ turn :: after →
    graph.outgoing turn.node.id =
      turn.exitEdges ++ [⟨turn.node.id, Turn.entry final.id after, turn.onward⟩]
  fromExit : ∀ turn ∈ turns, ∀ exit ∈ turn.exits, graph.outgoing exit.1.id = []
  fromFinal : graph.outgoing final.id = []

theorem generic_along (description : Description) (honorGateways : Bool) (token : String) :
    ∃ start final turns,
      List.Forall₂ (Becomes (if honorGateways then description.gateways else [])) description.steps
        turns ∧
      start.kind = .startEvent ∧ start.label = description.startLabel ∧
      final.kind = .endEvent ∧ final.label = description.endLabel ∧
      (generic description honorGateways token).Spine (⟨start, [], none⟩ :: turns) final := by
  obtain ⟨start, begins, startLabel, along⟩ := Chain.start_along token description.startLabel
  obtain ⟨turns, becomes, front, last, split, further⟩ := Chain.steps_along along
    (if honorGateways then description.gateways else []) description.steps.zipIdx
  obtain ⟨final, ends, endLabel, nodes, edges⟩ := Chain.finish_along further description.endLabel
  have whole : (⟨start, [], none⟩ : Turn) :: turns = front ++ [last] := split
  rw [List.zipIdx_map_fst] at becomes
  rw [← whole] at nodes edges
  exact ⟨start, final, turns, becomes, begins, startLabel, ends, endLabel, nodes, edges,
    (generic_sound description honorGateways token).1.distinct⟩

theorem spine_unfolds (graph : Graph) (turns : List Turn) (start final : Node)
    (spine : graph.Spine (⟨start, [], none⟩ :: turns) final) (begins : start.kind = .startEvent)
    (ends : final.kind = .endEvent) (single : ∃ only, graph.starts = [only]) :
    graph.Unfolds turns start final := by
  have nodes : graph.nodes = start :: turns.flatMap Turn.nodes ++ [final] := spine.nodes
  refine ⟨begins, ends, nodes, spine.distinct, ?_, ?_, ?_, ?_, spine.outgoing_final⟩
  · obtain ⟨only, starts⟩ := single
    have member : start ∈ graph.starts := by
      refine List.mem_filter.mpr ⟨?_, decide_eq_true begins⟩
      rw [nodes]
      exact List.mem_cons_self
    rw [starts] at member ⊢
    rw [List.mem_singleton.mp member]
  · exact spine.outgoing_turn [] _ turns rfl
  · intro before turn after split
    exact spine.outgoing_turn (⟨start, [], none⟩ :: before) turn after (by rw [split]; rfl)
  · intro turn member exit inside
    exact spine.outgoing_exit turn (List.mem_cons_of_mem _ member) exit inside

section Counts

variable {graph : Graph} {turns : List Turn} {start final : Node}
  (spine : graph.Spine (⟨start, [], none⟩ :: turns) final)

include spine

theorem nodes_counted : graph.nodes.length =
    turns.length + 2 + (turns.map fun turn => turn.exits.length).sum := by
  rw [spine.nodes, List.length_append, Turn.nodes_length, List.length_cons, List.map_cons,
    List.sum_cons, List.length_nil, List.length_singleton]
  omega

theorem edges_counted : graph.edges.length + 1 = graph.nodes.length := by
  rw [spine.edges, Turn.edges_length, spine.nodes, List.length_append, List.length_singleton]

theorem paths_listed (starts : graph.starts = [start]) :
    graph.paths =
      (Turn.sidePaths turns).map (start :: ·) ++ [start :: turns.map Turn.node ++ [final]] :=
  spine.paths_eq (congrArg (List.map Node.id) starts)

end Counts

section Conditions

variable {graph : Graph} {turns : List Turn} {start final : Node} {gateways : List Gateway}
  {steps : List Step} (unfolds : graph.Unfolds turns start final)
  (becomes : List.Forall₂ (Becomes gateways) steps turns)

include unfolds

theorem turn_conditions (turn : Turn) (member : turn ∈ turns) :
    (graph.outgoing turn.node.id).map Edge.condition = turn.exits.map Prod.snd ++ [turn.onward] := by
  obtain ⟨before, after, split⟩ := List.append_of_mem member
  rw [unfolds.fromTurn before turn after split, Turn.exitEdges, List.map_append, List.map_map]
  rfl

theorem edge_leaves (connected : ∀ edge ∈ graph.edges, edge.source ∈ graph.ids) (edge : Edge)
    (member : edge ∈ graph.edges) (shown : edge.condition ≠ none) :
    ∃ turn ∈ turns, edge.source = turn.node.id ∧
      edge.condition ∈ turn.exits.map Prod.snd ++ [turn.onward] := by
  have leaving : ∀ id, edge.source = id → edge ∈ graph.outgoing id := by
    intro id same
    exact List.mem_filter.mpr ⟨member, decide_eq_true same⟩
  obtain ⟨node, listed, same⟩ := List.mem_map.mp (connected edge member)
  have inside := leaving node.id same.symm
  rw [unfolds.nodes, List.mem_append, List.mem_cons, List.mem_flatMap] at listed
  rcases listed with (rfl | ⟨turn, known, held⟩) | last
  · rw [unfolds.fromStart, List.mem_singleton] at inside
    exact absurd (congrArg Edge.condition inside) shown
  · cases List.mem_cons.mp held with
    | inl here =>
        refine ⟨turn, known, same.symm.trans (congrArg Node.id here), ?_⟩
        rw [← turn_conditions unfolds turn known, ← here]
        exact List.mem_map_of_mem inside
    | inr aside =>
        obtain ⟨exit, listed, rfl⟩ := List.mem_map.mp aside
        rw [unfolds.fromExit turn known exit listed] at inside
        cases inside
  · rw [List.mem_singleton.mp last, unfolds.fromFinal] at inside
    cases inside

include becomes

theorem only_choices_shown (connected : ∀ edge ∈ graph.edges, edge.source ∈ graph.ids) (edge : Edge)
    (member : edge ∈ graph.edges) (shown : edge.condition ≠ none) :
    ∃ step turn gateway, (step, turn) ∈ steps.zip turns ∧ Honours gateways step gateway ∧
      gateway.kind ≠ .parallel ∧ edge.source = turn.node.id := by
  obtain ⟨turn, known, source, condition⟩ := edge_leaves unfolds connected edge member shown
  obtain ⟨step, paired⟩ := Each.partner _ _ _ becomes turn known
  by_contra none_chooses
  have parallel : ∀ gateway, Honours gateways step gateway → gateway.kind = .parallel := by
    intro gateway honoured
    by_contra chooses
    exact none_chooses ⟨step, turn, gateway, paired, honoured, chooses, source⟩
  obtain ⟨onward, aside⟩ := ((List.forall₂_iff_zip.mp becomes).2 paired).nothing_shown parallel
  cases List.mem_append.mp condition with
  | inl exit =>
      obtain ⟨listed, held, same⟩ := List.mem_map.mp exit
      exact shown (same.symm.trans (aside listed held))
  | inr last => exact shown ((List.mem_singleton.mp last).trans onward)

theorem choices_shown (step : Step) (turn : Turn) (gateway : Gateway)
    (paired : (step, turn) ∈ steps.zip turns) (honoured : Honours gateways step gateway)
    (chooses : gateway.kind ≠ .parallel) :
    turn.onward = gateway.branches.head? ∧ gateway.branches.Nodup ∧
      ((graph.outgoing turn.node.id).map Edge.condition).Perm (gateway.branches.map some) := by
  obtain ⟨onward, all⟩ :=
    ((List.forall₂_iff_zip.mp becomes).2 paired).choice_shown gateway honoured chooses
  refine ⟨onward, Chain.branches_distinct gateway, ?_⟩
  rw [turn_conditions unfolds turn (List.of_mem_zip paired).2]
  exact all

end Conditions

/-- The graph of a description that no archetype accepts: a line through its steps, with one end more for
each outcome of a branch but the first. -/
theorem generic_shape {Coordinate : Type} (archetypes : List (Archetype Coordinate))
    (honorGateways : Bool) (description : Description) (token : String)
    (strange : Archetype.find? archetypes description = none) :
    let gateways := if honorGateways then description.gateways else []
    let further := (description.steps.map (furtherOutcomes gateways)).sum
    ∃ graph turns start final sides,
      ofDescription archetypes honorGateways description token = .ok graph ∧
      List.Forall₂ (Becomes gateways) description.steps turns ∧
      start.label = description.startLabel ∧ final.label = description.endLabel ∧
      graph.Unfolds turns start final ∧
      graph.nodes.length = description.steps.length + 2 + further ∧
      graph.edges.length + 1 = graph.nodes.length ∧
      graph.paths = sides ++ [start :: turns.map Turn.node ++ [final]] ∧ sides.length = further ∧
      (∀ path, path ∈ sides ↔ ∃ before turn after exit, turns = before ++ turn :: after ∧
        exit ∈ turn.exits ∧ path = start :: before.map Turn.node ++ [turn.node, exit.1]) ∧
      (∀ step turn gateway, (step, turn) ∈ description.steps.zip turns →
        Honours gateways step gateway → gateway.kind ≠ .parallel →
        turn.onward = gateway.branches.head? ∧ gateway.branches.Nodup ∧
          ((graph.outgoing turn.node.id).map Edge.condition).Perm (gateway.branches.map some)) ∧
      ∀ edge ∈ graph.edges, edge.condition ≠ none → ∃ step turn gateway,
        (step, turn) ∈ description.steps.zip turns ∧ Honours gateways step gateway ∧
          gateway.kind ≠ .parallel ∧ edge.source = turn.node.id := by
  intro gateways further
  obtain ⟨start, final, turns, becomes, begins, startLabel, ends, endLabel, spine⟩ :=
    generic_along description honorGateways token
  have sound := (generic_sound description honorGateways token).1
  have accepted := generic_accepted archetypes honorGateways description token strange sound
  generalize generic description honorGateways token = graph at spine sound accepted
  have unfolds := spine_unfolds graph turns start final spine begins ends sound.start
  have exits : turns.map (fun turn => turn.exits.length) =
      description.steps.map (furtherOutcomes gateways) :=
    Each.map_same _ _ _ _ (becomes.imp fun _ _ one => one.exits_count)
  refine ⟨graph, turns, start, final, (Turn.sidePaths turns).map (start :: ·), accepted, becomes,
    startLabel, endLabel, unfolds, ?_, edges_counted spine, paths_listed spine unfolds.starts, ?_,
    ?_, choices_shown unfolds becomes,
    only_choices_shown unfolds becomes fun edge member => (sound.connected edge member).1⟩
  · rw [nodes_counted spine, exits, becomes.length_eq]
  · rw [List.length_map, Turn.side_paths_length, exits]
  · intro path
    rw [List.mem_map]
    constructor
    · rintro ⟨side, member, rfl⟩
      obtain ⟨before, turn, after, exit, split, inside, rfl⟩ :=
        (Turn.mem_side_paths turns side).mp member
      exact ⟨before, turn, after, exit, split, inside, rfl⟩
    · rintro ⟨before, turn, after, exit, split, inside, rfl⟩
      exact ⟨_, (Turn.mem_side_paths turns _).mpr ⟨before, turn, after, exit, split, inside, rfl⟩,
        rfl⟩

/-- Two gateways in a row, of which the first has a namesake behind it and an outcome twice; then a
task, and a parallel gateway that ends the line. -/
def forkedDescription : Description where
  name := "dispatch"
  steps := [
    { id := some " Check ", name := "Checked", kind := .gateway },
    { name := "Ship?", kind := .gateway },
    { id := some "pack", name := "Pack" },
    { id := some "split", name := "Split", kind := .gateway }]
  gateways := [
    { id := "check", outcomes := ["ok", " ok", "", "bad"] },
    { id := "check", outcomes := ["yes", "no", "later"] },
    { name := "SHIP?", kind := .inclusive, outcomes := ["air", "sea", "rail"] },
    { id := "split", kind := .parallel, outcomes := ["bill", "thank"] }]

theorem forked_shape :
    Archetype.find? ([] : List (Archetype Int)) forkedDescription = none ∧
      ∃ graph, ofDescription ([] : List (Archetype Int)) true forkedDescription "0" = .ok graph ∧
        graph.nodes.length = 10 ∧ graph.edges.length = 9 ∧ graph.paths.length = 5 := by
  obtain ⟨graph, turns, start, final, sides, built, _, _, _, _, nodes, edges, paths, aside, _⟩ :=
    generic_shape ([] : List (Archetype Int)) true forkedDescription "0" rfl
  have further : (forkedDescription.steps.map (furtherOutcomes
      (if true then forkedDescription.gateways else []))).sum = 4 := by
    decide +kernel
  have steps : forkedDescription.steps.length = 4 := rfl
  rw [further] at nodes aside
  rw [steps] at nodes
  refine ⟨rfl, graph, built, nodes, ?_, ?_⟩
  · omega
  · rw [paths, List.length_append, aside]
    rfl

end Graph

end ProcessDiagram
