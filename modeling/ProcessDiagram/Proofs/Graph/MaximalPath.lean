import Mathlib.Data.List.Chain
import Mathlib.Data.List.Count
import ProcessDiagram.Proofs.Graph.Trail

set_option autoImplicit false

namespace ProcessDiagram.Graph

variable (graph : Graph)

def Joined (first second : Node) : Prop :=
  ∃ edge ∈ graph.edges, edge.source = first.id ∧ edge.target = second.id

structure MaximalPath (path : List Node) : Prop where
  start : ∃ start ∈ graph.starts, path.head? = some start
  inside : ∀ node ∈ path, node ∈ graph.nodes
  joined : path.IsChain graph.Joined
  simple : path.Nodup
  final : ∃ final, path.getLast? = some final ∧ graph.outgoing final.id = []

def parallel (first second : Node) : List Edge :=
  (graph.outgoing first.id).filter fun edge => edge.target = second.id

-- The choices of edges that join the nodes of a path, one edge from each node to the next.
def edgeChoices : List Node → List (List Edge)
  | first :: second :: rest =>
      (graph.parallel first second).flatMap fun edge =>
        (edgeChoices (second :: rest)).map (edge :: ·)
  | _ => [[]]

theorem choices_count (first second : Node) (rest : List Node) :
    (graph.edgeChoices (first :: second :: rest)).length =
      (graph.parallel first second).length * (graph.edgeChoices (second :: rest)).length := by
  simp [edgeChoices]

-- What one call lists, when the calls for the targets list what is given for them.
def listedBy (onward : List String → String → List (List Node)) (visited : List String)
    (id : String) : List (List Node) :=
  match graph.node? id with
  | none => []
  | some node =>
      if id ∈ visited then []
      else
        match graph.outgoing id with
        | [] => [[node]]
        | edges => edges.flatMap fun edge => (onward (id :: visited) edge.target).map (node :: ·)

inductive CalledBy : List String × String → List String × String → Prop
  | target (visited : List String) (id : String) (node : Node) (edge : Edge)
      (found : graph.node? id = some node) (fresh : id ∉ visited)
      (leaves : edge ∈ graph.outgoing id) : CalledBy (id :: visited, edge.target) (visited, id)

def unvisited (visited : List String) : Nat :=
  graph.nodes.countP fun node => node.id ∉ visited

theorem unvisited_less (visited : List String) (id : String) (node : Node)
    (found : graph.node? id = some node) (fresh : id ∉ visited) :
    graph.unvisited (id :: visited) < graph.unvisited visited := by
  obtain ⟨member, rfl⟩ := found_member graph id node found
  obtain ⟨before, behind, split⟩ := List.append_of_mem member
  have fewer : ∀ nodes : List Node, (nodes.countP fun other => other.id ∉ node.id :: visited) ≤
      nodes.countP fun other => other.id ∉ visited := fun nodes =>
    List.countP_mono_left fun other _ => by simp
  have one := fewer before
  have others := fewer behind
  rw [unvisited, unvisited, split, List.countP_append, List.countP_append, List.countP_cons,
    List.countP_cons]
  simp only [List.mem_cons_self, not_true_eq_false, decide_false, Bool.false_eq_true, if_false,
    fresh, not_false_eq_true, decide_true, if_true]
  omega

theorem calls_end : WellFounded graph.CalledBy := by
  apply Subrelation.wf _ (measure fun call : List String × String => graph.unvisited call.1).wf
  intro inner outer called
  cases called with
  | target visited id node edge found fresh leaves =>
      exact unvisited_less graph visited id node found fresh

theorem paths_step (fuel : Nat) (visited : List String) (id : String) :
    graph.pathsFrom (fuel + 1) visited id = graph.listedBy (graph.pathsFrom fuel) visited id := rfl

theorem paths_settled (fuel : Nat) (visited : List String) (id : String)
    (enough : graph.unvisited visited ≤ fuel) :
    graph.listedBy (graph.pathsFrom fuel) visited id = graph.pathsFrom fuel visited id := by
  induction fuel generalizing visited id with
  | zero =>
      rw [listedBy, pathsFrom]
      split
      · rfl
      · rename_i node found
        have known : id ∈ visited := by
          by_contra fresh
          have less := unvisited_less graph visited id node found fresh
          omega
        rw [if_pos known]
  | succ fuel ih =>
      rw [paths_step, listedBy, listedBy]
      split
      · rfl
      · rename_i node found
        by_cases known : id ∈ visited
        · rw [if_pos known, if_pos known]
        · rw [if_neg known, if_neg known]
          have less := unvisited_less graph visited id node found known
          split
          · rfl
          · refine List.flatMap_congr fun edge _ => ?_
            rw [paths_step, ih _ _ (by omega)]

theorem search_settled (visited : List String) (id : String) :
    graph.pathsFrom graph.nodes.length visited id =
      graph.listedBy (graph.pathsFrom graph.nodes.length) visited id :=
  (paths_settled graph graph.nodes.length visited id List.countP_le_length).symm

theorem trail_joined (visited : List String) (id : String) (path : List Node)
    (trail : Trail graph visited id path) : path.IsChain graph.Joined := by
  induction trail with
  | stop visited id node _ _ _ => exact .singleton node
  | go visited id node edge path found _ leaves further ih =>
      obtain ⟨_, rfl⟩ := found_member graph id node found
      obtain ⟨listed, source⟩ := List.mem_filter.mp leaves
      refine .cons ih fun second first => ?_
      rw [trail_head graph _ _ _ further] at first
      obtain ⟨_, target⟩ := found_member graph edge.target second first
      exact ⟨edge, listed, of_decide_eq_true source, target.symm⟩

theorem trail_final (visited : List String) (id : String) (path : List Node)
    (trail : Trail graph visited id path) :
    ∃ final, path.getLast? = some final ∧ graph.outgoing final.id = [] := by
  induction trail with
  | stop visited id node found _ final =>
      obtain ⟨_, rfl⟩ := found_member graph id node found
      exact ⟨node, rfl, final⟩
  | go visited id node edge path _ _ _ _ ih =>
      obtain ⟨final, last, nothing⟩ := ih
      refine ⟨final, ?_, nothing⟩
      rw [List.getLast?_cons, last, Option.getD_some]

section Distinct

variable (distinct : graph.ids.Nodup)

include distinct

theorem trail_of_chain (first : Node) (rest : List Node)
    (inside : ∀ node ∈ first :: rest, node ∈ graph.nodes)
    (joined : (first :: rest).IsChain graph.Joined) (simple : (first :: rest).Nodup)
    (final : ∃ final, (first :: rest).getLast? = some final ∧ graph.outgoing final.id = [])
    (visited : List String) (apart : ∀ node ∈ first :: rest, node.id ∉ visited) :
    Trail graph visited first.id (first :: rest) := by
  obtain ⟨member, others⟩ := List.forall_mem_cons.mp inside
  obtain ⟨fresh, later⟩ := List.forall_mem_cons.mp apart
  have found := node_of_id graph distinct first member
  induction rest generalizing first visited with
  | nil =>
      obtain ⟨last, same, nothing⟩ := final
      cases same
      exact .stop visited first.id first found fresh nothing
  | cons second rest ih =>
      rw [List.isChain_cons_cons] at joined
      obtain ⟨⟨edge, listed, source, target⟩, onward⟩ := joined
      rw [List.nodup_cons] at simple
      have ahead : ∀ node ∈ second :: rest, node.id ∉ first.id :: visited := by
        intro node behind known
        cases List.mem_cons.mp known with
        | inl same =>
            have equal := List.inj_on_of_nodup_map distinct (others node behind) member same
            exact simple.1 (equal ▸ behind)
        | inr old => exact later node behind old
      obtain ⟨inner, outer⟩ := List.forall_mem_cons.mp others
      obtain ⟨free, freeLater⟩ := List.forall_mem_cons.mp ahead
      have further := ih second others onward simple.2 final (first.id :: visited) ahead inner outer
        free freeLater (node_of_id graph distinct second inner)
      rw [← target] at further
      exact .go visited first.id first edge _ found fresh
        (List.mem_filter.mpr ⟨listed, decide_eq_true source⟩) further

theorem mem_paths_iff (path : List Node) : path ∈ graph.paths ↔ graph.MaximalPath path := by
  rw [mem_paths]
  constructor
  · rintro ⟨start, first, trail⟩
    obtain ⟨inside, different, _⟩ := trail_nodes graph [] start.id path trail
    have head := trail_head graph [] start.id path trail
    rw [node_of_id graph distinct start (List.mem_of_mem_filter first)] at head
    exact ⟨⟨start, first, head⟩, inside, trail_joined graph _ _ _ trail, different.of_map,
      trail_final graph _ _ _ trail⟩
  · rintro ⟨⟨start, first, head⟩, inside, joined, simple, final⟩
    obtain ⟨rest, rfl⟩ := List.head?_eq_some_iff.mp head
    exact ⟨start, first, trail_of_chain graph distinct start rest inside joined simple final []
      fun _ _ => List.not_mem_nil⟩

end Distinct

theorem count_each {Source Target : Type} [BEq Target] (sources : List Source)
    (listed : Source → List Target) (chosen : Source → Bool) (target : Target) (times : Nat)
    (each : ∀ source ∈ sources, (listed source).count target = if chosen source then times else 0) :
    (sources.flatMap listed).count target = (sources.filter chosen).length * times := by
  induction sources with
  | nil => simp
  | cons source rest ih =>
      obtain ⟨one, others⟩ := List.forall_mem_cons.mp each
      rw [List.flatMap_cons, List.count_append, one, ih others, List.filter_cons]
      cases chosen source with
      | false => simp
      | true => simp [Nat.succ_mul, Nat.add_comm]

theorem count_elsewhere (fuel : Nat) (visited : List String) (id : String) (path : List Node)
    (elsewhere : path.head? ≠ graph.node? id) : (graph.pathsFrom fuel visited id).count path = 0 :=
  List.count_eq_zero.mpr fun member =>
    elsewhere (trail_head graph visited id path (path_trail graph fuel visited id path member))

theorem count_trail (visited : List String) (id : String) (path : List Node)
    (trail : Trail graph visited id path) (fuel : Nat) (enough : path.length ≤ fuel) :
    (graph.pathsFrom fuel visited id).count path = (graph.edgeChoices path).length := by
  induction trail generalizing fuel with
  | stop visited id node found fresh final =>
      obtain ⟨fuel, rfl⟩ := Nat.exists_eq_add_of_lt (Nat.lt_of_lt_of_le Nat.zero_lt_one enough)
      rw [Nat.zero_add, paths_step, listedBy, found]
      simp only [if_neg fresh, final]
      exact List.count_singleton_self
  | go visited id node edge path found fresh leaves further ih =>
      obtain ⟨fuel, rfl⟩ := Nat.exists_eq_add_of_lt (Nat.lt_of_lt_of_le (Nat.succ_pos _) enough)
      rw [Nat.zero_add] at enough ⊢
      have head := trail_head graph _ _ _ further
      obtain ⟨second, rest, rfl⟩ : ∃ second rest, path = second :: rest := by
        cases further with
        | stop _ _ last => exact ⟨last, [], rfl⟩
        | go _ _ second _ rest => exact ⟨second, rest, rfl⟩
      obtain ⟨_, target⟩ := found_member graph edge.target second head.symm
      obtain ⟨_, rfl⟩ := found_member graph id node found
      have listed : graph.pathsFrom (fuel + 1) visited node.id =
          (graph.outgoing node.id).flatMap fun other =>
            (graph.pathsFrom fuel (node.id :: visited) other.target).map (node :: ·) := by
        rw [paths_step, listedBy, found]
        simp only [if_neg fresh]
        split
        · rename_i none
          rw [none] at leaves
          cases leaves
        · rfl
      rw [listed, choices_count, parallel]
      apply count_each
      intro other _
      rw [List.count_map_of_injective _ _ (List.cons_injective)]
      by_cases same : other.target = second.id
      · rw [decide_eq_true same, if_pos rfl, same, target]
        exact ih fuel (Nat.le_of_succ_le_succ enough)
      · rw [decide_eq_false same, if_neg Bool.false_ne_true]
        apply count_elsewhere
        intro again
        exact same (found_member graph other.target second again.symm).2.symm

theorem count_paths (distinct : graph.ids.Nodup) (path : List Node)
    (maximal : graph.MaximalPath path) : graph.paths.count path = (graph.edgeChoices path).length := by
  obtain ⟨start, first, trail⟩ :=
    (mem_paths graph path).mp ((mem_paths_iff graph distinct path).mpr maximal)
  have head := trail_head graph [] start.id path trail
  have once : (graph.starts.filter fun other => other.id = start.id).length = 1 := by
    have ids : (graph.starts.map Node.id).Nodup := distinct.sublist (List.filter_sublist.map _)
    have member := List.count_eq_one_of_mem ids (List.mem_map_of_mem first)
    rw [List.count_eq_countP, List.countP_map, List.countP_eq_length_filter] at member
    exact member
  rw [paths, count_each graph.starts _ (fun other => other.id = start.id) path
    (graph.edgeChoices path).length, once, Nat.one_mul]
  intro other begun
  by_cases same : other.id = start.id
  · rw [decide_eq_true same, if_pos rfl, same]
    exact count_trail graph [] start.id path trail _ (trail_length graph [] start.id path trail)
  · rw [decide_eq_false same, if_neg Bool.false_ne_true]
    apply count_elsewhere
    rw [head]
    intro again
    rw [node_of_id graph distinct start (List.mem_of_mem_filter first)] at again
    exact same (found_member graph other.id start again.symm).2.symm

/-- The paths of a graph are its maximal simple paths, each listed once for every choice among parallel
edges, and the search for them ends. Edges may lead nowhere or in circles. -/
theorem paths_enumerated (distinct : graph.ids.Nodup) :
    WellFounded graph.CalledBy ∧
      (∀ visited id, graph.pathsFrom graph.nodes.length visited id =
        graph.listedBy (graph.pathsFrom graph.nodes.length) visited id) ∧
      (∀ path, path ∈ graph.paths ↔ graph.MaximalPath path) ∧
      ∀ path, graph.MaximalPath path →
        graph.paths.count path = (graph.edgeChoices path).length :=
  ⟨calls_end graph, search_settled graph, mem_paths_iff graph distinct,
    count_paths graph distinct⟩

/-- Two parallel edges, a cycle, a loop and an edge to no node. -/
def knotted : Graph where
  nodes := [
    { id := "a", elementId := "A", kind := .startEvent },
    { id := "b", elementId := "B", kind := .task },
    { id := "c", elementId := "C", kind := .task },
    { id := "d", elementId := "D", kind := .endEvent }]
  edges := [⟨"a", "b", none⟩, ⟨"a", "b", some "again"⟩, ⟨"b", "c", none⟩, ⟨"c", "b", none⟩,
    ⟨"c", "c", none⟩, ⟨"c", "e", none⟩, ⟨"c", "d", none⟩, ⟨"b", "d", none⟩]

theorem knotted_paths_enumerated :
    knotted.ids.Nodup ∧ knotted.paths.map (List.map Node.id) =
        [["a", "b", "c", "d"], ["a", "b", "d"], ["a", "b", "c", "d"], ["a", "b", "d"]] ∧
      (∀ path ∈ knotted.paths, knotted.MaximalPath path) ∧
      ∀ path, knotted.MaximalPath path →
        knotted.paths.count path = (knotted.edgeChoices path).length := by
  have distinct : knotted.ids.Nodup := by decide
  obtain ⟨_, _, listed, counted⟩ := paths_enumerated knotted distinct
  exact ⟨distinct, by decide, fun path => (listed path).mp, counted⟩

end ProcessDiagram.Graph
