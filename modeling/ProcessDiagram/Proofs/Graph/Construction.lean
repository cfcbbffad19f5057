import ProcessDiagram.Archetype.Catalog
import ProcessDiagram.Proofs.Each
import ProcessDiagram.Proofs.Graph.Chain

set_option autoImplicit false

namespace ProcessDiagram

def Node.idAndKind (node : Node) : String × NodeKind :=
  (node.id, node.kind)

def Node.fixed (node : Node) : (String × NodeKind) × Option String :=
  (node.idAndKind, node.role)

namespace Graph

open Node (idAndKind)

variable (graph twin : Graph) (nodes : graph.nodes.map idAndKind = twin.nodes.map idAndKind)

include nodes

theorem kinds_alike (kind : NodeKind) :
    (graph.ofKind kind).map idAndKind = (twin.ofKind kind).map idAndKind := by
  have chosen := congrArg (List.filter fun pair => pair.2 = kind) nodes
  rw [List.filter_map, List.filter_map] at chosen
  exact chosen

theorem ids_alike : graph.ids = twin.ids := by
  have firsts := congrArg (List.map Prod.fst) nodes
  rwa [List.map_map, List.map_map] at firsts

theorem node_alike (node : Node) (member : node ∈ graph.nodes) :
    ∃ other ∈ twin.nodes, other.id = node.id ∧ other.kind = node.kind := by
  have listed : idAndKind node ∈ twin.nodes.map idAndKind := nodes ▸ List.mem_map_of_mem member
  obtain ⟨other, inside, same⟩ := List.mem_map.mp listed
  exact ⟨other, inside, congrArg Prod.fst same, congrArg Prod.snd same⟩

theorem sound_alike (edges : graph.edges = twin.edges)
    (distinct : (graph.nodes.map Node.elementId).Nodup) (sound : twin.Sound) : graph.Sound := by
  have ids := ids_alike graph twin nodes
  have counterpart := node_alike graph twin nodes
  have starts := kinds_alike graph twin nodes .startEvent
  constructor
  · rw [ids]
    exact sound.distinct
  · exact distinct
  · rw [ids, edges]
    exact sound.connected
  · obtain ⟨start, only⟩ := sound.start
    rw [← Graph.starts, ← Graph.starts, only] at starts
    obtain ⟨first, found, _⟩ := List.map_eq_singleton_iff.mp starts
    exact ⟨first, found⟩
  · intro node member
    obtain ⟨other, inside, id, kind⟩ := counterpart node member
    rw [← id, ← kind, incoming, edges]
    exact sound.entered other inside
  · intro node member
    obtain ⟨other, inside, id, kind⟩ := counterpart node member
    rw [← id, ← kind, outgoing, edges]
    exact sound.left other inside
  · intro start member id known
    rw [← Graph.starts, ← Graph.starts] at starts
    have listed : idAndKind start ∈ twin.starts.map idAndKind :=
      starts ▸ List.mem_map_of_mem member
    obtain ⟨other, inside, same⟩ := List.mem_map.mp listed
    have first : other.id = start.id := congrArg Prod.fst same
    rw [links, edges, ← first]
    exact sound.reached other inside id (ids ▸ known)
  · intro node member
    obtain ⟨other, inside, id, kind⟩ := counterpart node member
    rw [← id, ← kind, branchLabels, outgoing, edges]
    exact sound.labelled other inside

theorem ends_alike (ended : twin.ends ≠ []) : graph.ends ≠ [] := by
  have ends := kinds_alike graph twin nodes .endEvent
  intro none
  rw [← Graph.ends, ← Graph.ends, none] at ends
  exact ended (List.map_eq_nil_iff.mp ends.symm)

end Graph

namespace Shape

def outline (shape : Shape) : Graph where
  nodes := shape.places.zipIdx.map fun entry =>
    { id := Draft.nodeId (entry.2 + 1), elementId := entry.1.role, kind := entry.1.kind }
  edges := shape.flows.map fun flow =>
    ⟨shape.idOf flow.source, shape.idOf flow.target, flow.condition.filter (· ≠ "")⟩

structure Outlines (shape : Shape) (graph : Graph) : Prop where
  nodes : graph.nodes.map Node.idAndKind = shape.outline.nodes.map Node.idAndKind
  edges : graph.edges = shape.outline.edges

variable (description : Description) (draft : Draft)

theorem place_runs (place : Place) :
    ((place.action.run description draft).nodes.map Node.fixed =
      draft.nodes.map Node.fixed ++ [((draft.nextId, place.kind), some place.role)]) ∧
      (place.action.run description draft).edges = draft.edges := by
  rw [Place.action]
  by_cases task : place.kind = .task
  · rw [if_pos task, Action.run, task]
    split
    · exact ⟨List.map_append, rfl⟩
    · exact ⟨List.map_append, rfl⟩
  · rw [if_neg task]
    exact ⟨List.map_append, rfl⟩

theorem places_run (places : List Place) :
    (((places.map Place.action).foldl (Action.run description) draft).nodes.map Node.fixed =
      draft.nodes.map Node.fixed ++ (places.zipIdx draft.nodes.length).map fun entry =>
        ((Draft.nodeId (entry.2 + 1), entry.1.kind), some entry.1.role)) ∧
      ((places.map Place.action).foldl (Action.run description) draft).edges = draft.edges := by
  induction places generalizing draft with
  | nil => exact ⟨(List.append_nil _).symm, rfl⟩
  | cons place rest ih =>
      obtain ⟨nodes, edges⟩ := place_runs description draft place
      obtain ⟨others, kept⟩ := ih (place.action.run description draft)
      have count := congrArg List.length nodes
      simp only [List.length_map, List.length_append, List.length_singleton] at count
      rw [List.map_cons, List.foldl_cons, others, kept, nodes, edges, count, List.zipIdx_cons,
        List.map_cons, List.append_assoc]
      exact ⟨rfl, rfl⟩

theorem flows_run (shape : Shape) (flows : List Flow) :
    ((flows.map (Flow.action shape)).foldl (Action.run description) draft).nodes = draft.nodes ∧
      ((flows.map (Flow.action shape)).foldl (Action.run description) draft).edges =
        draft.edges ++ flows.map fun flow =>
          ⟨shape.idOf flow.source, shape.idOf flow.target, flow.condition.filter (· ≠ "")⟩ := by
  induction flows generalizing draft with
  | nil => exact ⟨rfl, (List.append_nil _).symm⟩
  | cons flow rest ih =>
      obtain ⟨nodes, edges⟩ := ih ((Flow.action shape flow).run description draft)
      rw [List.map_cons, List.foldl_cons, nodes, edges]
      exact ⟨rfl, List.append_assoc _ _ _⟩

theorem actions_run (shape : Shape) (token : String) :
    ((shape.actions.foldl (Action.run description) (.empty token)).nodes.map Node.fixed =
      shape.places.zipIdx.map fun entry =>
        ((Draft.nodeId (entry.2 + 1), entry.1.kind), some entry.1.role)) ∧
      (shape.actions.foldl (Action.run description) (.empty token)).edges =
        shape.outline.edges := by
  obtain ⟨nodes, edges⟩ := places_run description (.empty token) shape.places
  obtain ⟨kept, added⟩ := flows_run description
    ((shape.places.map Place.action).foldl (Action.run description) (.empty token)) shape
    shape.flows
  rw [actions, List.foldl_append, kept, nodes, added, edges, outline]
  exact ⟨rfl, rfl⟩

theorem outline_run (shape : Shape) (token : String) :
    (shape.actions.foldl (Action.run description) (.empty token)).nodes.map Node.idAndKind =
      shape.outline.nodes.map Node.idAndKind ∧
      (shape.actions.foldl (Action.run description) (.empty token)).edges =
        shape.outline.edges := by
  obtain ⟨nodes, edges⟩ := actions_run description shape token
  have first := congrArg (List.map Prod.fst) nodes
  rw [List.map_map, List.map_map] at first
  rw [outline, List.map_map]
  exact ⟨first, edges⟩

def filled (shape : Shape) (name token : String) : Graph :=
  (shape.actions.foldl (Action.run description) (.empty token)).graph description.name (some name)

theorem filled_outlines (shape : Shape) (name token : String) :
    shape.Outlines (shape.filled description name token) := by
  obtain ⟨nodes, edges⟩ := shape.outline_run description token
  exact ⟨nodes, edges⟩

end Shape

namespace Archetype

variable {Coordinate : Type}

theorem run_all (description : Description) (draft : Draft) (actions : List Action) :
    runActions description draft (actions.map Except.ok) =
      .ok (actions.foldl (Action.run description) draft) := by
  induction actions generalizing draft with
  | nil => rfl
  | cons action rest ih => exact ih (action.run description draft)

theorem actions_tracked (description : Description) (token : String) (draft : Draft)
    (tracked : draft.Tracked token) (actions : List Action) :
    (actions.foldl (Action.run description) draft).Tracked token := by
  induction actions generalizing draft with
  | nil => exact tracked
  | cons action rest ih => exact ih _ (Draft.tracked_run token draft tracked description action)

theorem run_tracked (description : Description) (token : String) (draft last : Draft)
    (tracked : draft.Tracked token) (actions : List (Except UnknownMember Action))
    (run : runActions description draft actions = .ok last) : last.Tracked token := by
  induction actions generalizing draft with
  | nil =>
      cases run
      exact tracked
  | cons action rest ih =>
      cases action with
      | error failure => cases run
      | ok action => exact ih _ (Draft.tracked_run token draft tracked description action) run

def shapes : List Shape :=
  [Invoice.shape, Expense.shape]

theorem catalog_shapes (coordinate : Int → Coordinate) (archetype : Archetype Coordinate)
    (known : archetype ∈ catalog coordinate) :
    ∃ shape ∈ shapes, archetype.recipe = shape.recipe ∧
      archetype.places = shape.table.map fun (role, x, y) => (role, coordinate x, coordinate y) := by
  simp only [catalog, List.mem_cons, List.not_mem_nil, or_false] at known
  rcases known with rfl | rfl
  · exact ⟨Invoice.shape, List.mem_cons_self, rfl, rfl⟩
  · exact ⟨Expense.shape, List.mem_cons_of_mem _ List.mem_cons_self, rfl, rfl⟩

theorem shape_runs (archetype : Archetype Coordinate) (shape : Shape)
    (recipe : archetype.recipe = shape.recipe) (description : Description) (draft : Draft) :
    archetype.runRecipe description draft =
      .ok (shape.actions.foldl (Action.run description) draft) := by
  rw [runRecipe, recipe, Shape.recipe, run_all]

theorem shape_filled (archetype : Archetype Coordinate) (shape : Shape)
    (recipe : archetype.recipe = shape.recipe) (description : Description) (token : String) :
    Graph.ofArchetype archetype description token =
      .ok (shape.filled description archetype.name token) := by
  rw [Graph.ofArchetype, shape_runs archetype shape recipe]
  rfl

theorem shapes_sound : ∀ shape ∈ shapes, shape.outline.Sound ∧ shape.outline.ends ≠ [] := by
  simp only [shapes, List.forall_mem_cons, Graph.sound_iff]
  exact ⟨⟨by decide +kernel, by decide⟩, ⟨by decide +kernel, by decide⟩, by simp⟩

theorem filled_sound (shape : Shape) (member : shape ∈ shapes) (description : Description)
    (name token : String) : (shape.filled description name token).Sound := by
  have outlines := shape.filled_outlines description name token
  have tracked := actions_tracked description token _ (Draft.tracked_empty token) shape.actions
  exact Graph.sound_alike _ shape.outline outlines.nodes outlines.edges tracked.distinct
    (shapes_sound shape member).1

end Archetype

namespace Graph

variable {Coordinate : Type}

-- What every later stage needs of the graph of a description.
structure Built (graph : Graph) : Prop where
  sound : graph.Sound
  ended : graph.ends ≠ []
  issued : ∀ node ∈ graph.nodes, Allocator.Issued node.elementId

theorem generic_grown (description : Description) (honorGateways : Bool) (token : String) :
    ∃ chain : Chain, chain.Grown token ∧ chain.Labelled ∧
      generic description honorGateways token =
        (chain.finish description.endLabel).graph description.name := by
  obtain ⟨grown, labelled⟩ := Chain.steps_grown token description.startLabel
    (if honorGateways then description.gateways else []) description.steps
  exact ⟨_, grown, labelled, rfl⟩

theorem generic_sound (description : Description) (honorGateways : Bool) (token : String) :
    (generic description honorGateways token).Sound ∧
      (generic description honorGateways token).ends ≠ [] := by
  obtain ⟨chain, grown, labelled, shape⟩ := generic_grown description honorGateways token
  rw [shape]
  exact Chain.finish_sound token chain description.endLabel description.name none grown labelled

theorem generic_built (description : Description) (honorGateways : Bool) (token : String)
    (hex : ∀ c ∈ token.toList, Identifier.isHex c) (nonempty : token.toList ≠ []) :
    (generic description honorGateways token).Built := by
  obtain ⟨sound, ended⟩ := generic_sound description honorGateways token
  refine ⟨sound, ended, ?_⟩
  obtain ⟨chain, grown, _, shape⟩ := generic_grown description honorGateways token
  have final := Chain.extend_grown token chain .endEvent description.endLabel "EndEvent" (some "end")
    "" "" grown (by decide)
  rw [shape]
  exact Draft.tracked_issued token _ final.tracked hex nonempty

theorem generic_accepted (archetypes : List (Archetype Coordinate)) (honorGateways : Bool)
    (description : Description) (token : String)
    (strange : Archetype.find? archetypes description = none)
    (sound : (generic description honorGateways token).Sound) :
    ofDescription archetypes honorGateways description token =
      .ok (generic description honorGateways token) := by
  have clean := (sound_iff _).mp sound
  rw [ofDescription, strange]
  simp only [bind, Except.bind, clean]

theorem shaped_accepted (archetypes : List (Archetype Coordinate)) (honorGateways : Bool)
    (description : Description) (token : String) (archetype : Archetype Coordinate)
    (chosen : Archetype.find? archetypes description = some archetype) (graph : Graph)
    (found : ofArchetype archetype description token = .ok graph) (sound : graph.Sound) :
    ofDescription archetypes honorGateways description token = .ok graph := by
  have clean := (sound_iff _).mp sound
  rw [ofDescription, chosen]
  simp only [bind, Except.bind, found, Except.mapError, clean]

theorem generic_chosen (archetypes : List (Archetype Coordinate)) (honorGateways : Bool)
    (description : Description) (token : String)
    (hex : ∀ c ∈ token.toList, Identifier.isHex c) (nonempty : token.toList ≠ [])
    (strange : Archetype.find? archetypes description = none) :
    ofDescription archetypes honorGateways description token =
      .ok (generic description honorGateways token) :=
  generic_accepted archetypes honorGateways description token strange
    (generic_built description honorGateways token hex nonempty).sound

theorem checked_clean (name : String) (built graph : Graph)
    (checked : (match built.defects with
      | [] => Except.ok built
      | defects => Except.error (ConstructionFailure.inconsistent name defects)) = .ok graph) :
    built = graph ∧ graph.Sound := by
  split at checked
  · rename_i clean
    rw [← Except.ok.inj checked]
    exact ⟨rfl, (sound_iff built).mpr clean⟩
  · cases checked

theorem accepted_drafted (archetypes : List (Archetype Coordinate)) (honorGateways : Bool)
    (description : Description) (token : String) (graph : Graph)
    (found : ofDescription archetypes honorGateways description token = .ok graph) :
    graph.Sound ∧ ∃ draft : Draft, draft.Tracked token ∧ graph.nodes = draft.nodes := by
  rw [ofDescription] at found
  split at found
  · obtain ⟨built, shaped, checked⟩ := Each.bind_ok _ _ _ found
    obtain ⟨rfl, sound⟩ := checked_clean _ _ _ checked
    rw [Each.renamed_ok, ofArchetype] at shaped
    obtain ⟨draft, run, same⟩ := Each.bind_ok _ _ _ shaped
    cases same
    exact ⟨sound, draft, Archetype.run_tracked description token _ draft
      (Draft.tracked_empty token) _ run, rfl⟩
  · obtain ⟨rfl, sound⟩ := checked_clean _ _ _ found
    obtain ⟨chain, grown, _, shape⟩ := generic_grown description honorGateways token
    have final := Chain.extend_grown token chain .endEvent description.endLabel "EndEvent"
      (some "end") "" "" grown (by decide)
    exact ⟨sound, _, final.tracked, congrArg Graph.nodes shape⟩

theorem accepted_sound (archetypes : List (Archetype Coordinate)) (honorGateways : Bool)
    (description : Description) (token : String)
    (hex : ∀ c ∈ token.toList, Identifier.isHex c) (nonempty : token.toList ≠ []) (graph : Graph)
    (found : ofDescription archetypes honorGateways description token = .ok graph) :
    graph.Sound ∧ ∀ node ∈ graph.nodes, Allocator.Issued node.elementId := by
  obtain ⟨sound, draft, tracked, nodes⟩ :=
    accepted_drafted archetypes honorGateways description token graph found
  rw [nodes]
  exact ⟨sound, Draft.tracked_issued token draft tracked hex nonempty⟩

theorem description_accepted (coordinate : Int → Coordinate) (honorGateways : Bool)
    (description : Description) (token : String) :
    ∃ graph, ofDescription (Archetype.catalog coordinate) honorGateways description token =
      .ok graph ∧
      (graph = generic description honorGateways token ∨
        ∃ shape ∈ Archetype.shapes, Shape.Outlines shape graph) := by
  cases chosen : Archetype.find? (Archetype.catalog coordinate) description with
  | none =>
      exact ⟨_, generic_accepted _ honorGateways description token chosen
        (generic_sound description honorGateways token).1, .inl rfl⟩
  | some archetype =>
      obtain ⟨shape, member, recipe, _⟩ := Archetype.catalog_shapes coordinate archetype
        (List.mem_of_find?_eq_some chosen)
      have found := Archetype.shape_filled archetype shape recipe description token
      have sound := Archetype.filled_sound shape member description archetype.name token
      exact ⟨_, shaped_accepted _ honorGateways description token archetype chosen _ found sound,
        .inr ⟨shape, member, shape.filled_outlines description archetype.name token⟩⟩

theorem description_built (coordinate : Int → Coordinate) (honorGateways : Bool)
    (description : Description) (token : String)
    (hex : ∀ c ∈ token.toList, Identifier.isHex c) (nonempty : token.toList ≠ []) :
    ∃ graph, ofDescription (Archetype.catalog coordinate) honorGateways description token =
      .ok graph ∧ graph.Built := by
  obtain ⟨graph, found, origin⟩ :=
    description_accepted coordinate honorGateways description token
  obtain ⟨sound, issued⟩ := accepted_sound _ honorGateways description token hex nonempty graph found
  refine ⟨graph, found, sound, ?_, issued⟩
  rcases origin with rfl | ⟨shape, member, outlines⟩
  · exact (generic_sound description honorGateways token).2
  · exact ends_alike graph shape.outline outlines.nodes (Archetype.shapes_sound shape member).2

end Graph

end ProcessDiagram
