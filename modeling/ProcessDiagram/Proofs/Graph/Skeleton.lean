import ProcessDiagram.Proofs.Graph.Construction

set_option autoImplicit false

namespace ProcessDiagram

def Node.skeleton (node : Node) : Node :=
  { node with
    documentation := if node.kind.isTask then "" else node.documentation
    actor := if node.kind.isTask then "" else node.actor }

def Graph.skeleton (graph : Graph) : Graph :=
  { graph with name := "", nodes := graph.nodes.map Node.skeleton }

namespace Draft

structure Alike (draft twin : Draft) : Prop where
  ids : draft.ids = twin.ids
  nodes : draft.nodes.map Node.skeleton = twin.nodes.map Node.skeleton
  edges : draft.edges = twin.edges

theorem Alike.same (draft : Draft) : Alike draft draft :=
  ⟨rfl, rfl, rfl⟩

variable (draft twin : Draft) (alike : Alike draft twin)

include alike

theorem Alike.next : draft.nextId = twin.nextId := by
  have count := congrArg List.length alike.nodes
  rw [List.length_map, List.length_map] at count
  rw [nextId, nextId, count]

theorem Alike.add (kind : NodeKind) (label stem : String) (role : Option String)
    (documentation actor other another : String)
    (told : kind.isTask = true ∨ documentation = other ∧ actor = another) :
    Alike (draft.addNode kind label stem role documentation actor)
      (twin.addNode kind label stem role other another) := by
  have ids : (draft.addNode kind label stem role documentation actor).ids =
      (draft.ids.allocate stem).2 := rfl
  have also : (twin.addNode kind label stem role other another).ids =
      (twin.ids.allocate stem).2 := rfl
  refine ⟨by rw [ids, also, alike.ids], ?_, alike.edges⟩
  rw [nodes_add, nodes_add, List.map_append, List.map_append, alike.nodes, alike.ids,
    alike.next draft twin]
  rcases told with task | ⟨rfl, rfl⟩
  · simp [Node.skeleton, task]
  · rfl

theorem Alike.connect (source target : String) (condition : Option String) :
    Alike (draft.connect source target condition) (twin.connect source target condition) :=
  ⟨alike.ids, alike.nodes, by rw [Draft.connect, Draft.connect, alike.edges]⟩

theorem Alike.chain (ids : List String) : Alike (draft.chain ids) (twin.chain ids) := by
  induction ids generalizing draft twin with
  | nil => exact alike
  | cons first rest ih =>
      cases rest with
      | nil => exact alike
      | cons second others =>
          rw [Draft.chain, Draft.chain]
          exact ih _ _ (alike.connect draft twin first second none)

theorem Alike.run (one two : Description) (action : Action) :
    Alike (action.run one draft) (action.run two twin) := by
  cases action with
  | node kind label stem role documentation actor =>
      exact alike.add draft twin kind label stem role _ _ _ _ (.inr ⟨rfl, rfl⟩)
  | task label stem role =>
      have tasks := fun documentation actor other another =>
        alike.add draft twin .task label stem role documentation actor other another (.inl rfl)
      rw [Action.run, Action.run]
      split
      · split
        · exact tasks _ _ _ _
        · exact tasks _ _ _ _
      · split
        · exact tasks _ _ _ _
        · exact tasks _ _ _ _
  | connect source target condition => exact alike.connect draft twin source target condition
  | chain ids => exact alike.chain draft twin ids
  | reserve id => exact ⟨by rw [Action.run, Action.run, reserve, reserve, alike.ids], alike.nodes,
      alike.edges⟩

theorem Alike.run_all (one two : Description) (actions : List Action) :
    Alike (actions.foldl (Action.run one) draft) (actions.foldl (Action.run two) twin) := by
  induction actions generalizing draft twin with
  | nil => exact alike
  | cons action rest ih => exact ih _ _ (alike.run draft twin one two action)

end Draft

def Action.Asking : Action → Prop
  | .node kind _ _ _ _ _ => kind.isTask = false
  | _ => True

namespace Description

-- The documentation and the actor of a task: those of the first step that is called like it.
inductive Tells (description : Description) (label : String) : String → String → Prop where
  | step (before after : List Step) (step : Step)
      (listed : description.steps = before ++ step :: after)
      (named : Action.labelKey step.name = Action.labelKey label)
      (first : ∀ other ∈ before, Action.labelKey other.name ≠ Action.labelKey label) :
      Tells description label step.description step.actor
  | nothing
      (unnamed : ∀ step ∈ description.steps, Action.labelKey step.name ≠ Action.labelKey label) :
      Tells description label "" ""

variable (description : Description)

def TellsTasks (nodes : List Node) : Prop :=
  ∀ node ∈ nodes, node.kind.isTask = true →
    description.Tells node.label node.documentation node.actor

theorem found_tells (label : String) (step : Step)
    (found : Action.stepNamed? description label = some step) :
    description.Tells label step.description step.actor := by
  obtain ⟨named, before, after, listed, first⟩ := List.find?_eq_some_iff_append.mp found
  refine .step before after step listed (of_decide_eq_true named) fun other member => ?_
  simpa using first other member

theorem unfound_tells (label : String) (found : Action.stepNamed? description label = none) :
    description.Tells label "" "" := by
  refine .nothing fun step member => ?_
  simpa using List.find?_eq_none.mp found step member

variable (draft : Draft) (told : description.TellsTasks draft.nodes)

include told

theorem tells_added (kind : NodeKind) (label stem : String) (role : Option String)
    (documentation actor : String)
    (asked : kind.isTask = true → description.Tells label documentation actor) :
    description.TellsTasks (draft.addNode kind label stem role documentation actor).nodes := by
  intro node member task
  rw [Draft.nodes_add] at member
  rcases List.mem_append.mp member with old | last
  · exact told node old task
  · rw [List.mem_singleton.mp last] at task ⊢
    exact asked task

theorem tells_run (action : Action) (asking : action.Asking) :
    description.TellsTasks (action.run description draft).nodes := by
  cases action with
  | node kind label stem role documentation actor =>
      refine description.tells_added draft told kind label stem role _ _ fun task => ?_
      exact absurd task (ne_true_of_eq_false asking)
  | task label stem role =>
      rw [Action.run]
      cases found : Action.stepNamed? description label with
      | some step =>
          exact description.tells_added draft told _ _ _ _ _ _ fun _ =>
            description.found_tells label step found
      | none =>
          exact description.tells_added draft told _ _ _ _ _ _ fun _ =>
            description.unfound_tells label found
  | connect source target condition => exact told
  | chain ids =>
      rw [Action.run, (Draft.nodes_chain draft ids).1]
      exact told
  | reserve id => exact told

theorem tells_run_all (actions : List Action) (asking : ∀ action ∈ actions, action.Asking) :
    description.TellsTasks (actions.foldl (Action.run description) draft).nodes := by
  induction actions generalizing draft with
  | nil => exact told
  | cons action rest ih =>
      obtain ⟨first, others⟩ := List.forall_mem_cons.mp asking
      exact ih _ (description.tells_run draft told action first) others

end Description

namespace Shape

theorem filled_alike (shape : Shape) (one two : Description) (name token : String) :
    (shape.filled one name token).skeleton = (shape.filled two name token).skeleton := by
  have alike := (Draft.Alike.same (.empty token)).run_all _ _ one two shape.actions
  simp only [filled, Draft.graph, Graph.skeleton, alike.nodes, alike.edges]

theorem actions_asking (shape : Shape)
    (kinds : ∀ place ∈ shape.places, place.kind = .task ∨ place.kind.isTask = false) :
    ∀ action ∈ shape.actions, action.Asking := by
  intro action member
  rcases List.mem_append.mp member with fromPlace | fromFlow
  · obtain ⟨place, inside, rfl⟩ := List.mem_map.mp fromPlace
    rw [Place.action]
    by_cases task : place.kind = .task
    · rw [if_pos task]
      trivial
    · rw [if_neg task]
      exact (kinds place inside).resolve_left task
  · obtain ⟨flow, _, rfl⟩ := List.mem_map.mp fromFlow
    trivial

theorem filled_told (shape : Shape) (member : shape ∈ Archetype.shapes) (description : Description)
    (name token : String) : description.TellsTasks (shape.filled description name token).nodes := by
  have kinds : ∀ shape ∈ Archetype.shapes, ∀ place ∈ shape.places,
      place.kind = .task ∨ place.kind.isTask = false := by
    decide
  refine description.tells_run_all (.empty token) ?_ shape.actions
    (shape.actions_asking (kinds shape member))
  intro node none
  cases none

end Shape

end ProcessDiagram
