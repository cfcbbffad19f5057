import ProcessDiagram.Proofs.Document.Obstacle

set_option autoImplicit false

namespace ProcessDiagram.Document

structure Ready (options : Options) (subject : Subject) : Prop where
  connected : ∀ edge ∈ subject.graph.edges,
    edge.source ∈ subject.graph.ids ∧ edge.target ∈ subject.graph.ids
  texts : ∀ stamp ∈ rawTexts options subject, checkRaw stamp = .ok ()
  placed : ∀ node ∈ subject.graph.nodes, ∃ box, Table.get? node.id subject.diagram.boxes = some box
  routed : ∀ index < subject.graph.edges.length, ∃ points,
    Table.get? (index : Int) subject.diagram.routes = some points ∧ 2 ≤ points.length

theorem Ready.drawn (options : Options) (subject : Subject) (ready : Ready options subject) :
    Drawn subject :=
  ⟨ready.placed, ready.routed⟩

theorem write_ok (options : Options) (subject : Subject) (ready : Ready options subject) :
    ∃ text, write options subject = .ok text := by
  have worded := (raw_all_checked _).mp ((Each.all_checked _ _).mpr ready.texts)
  exact (write_succeeds options subject).mpr ⟨ready.connected, worded, ready.drawn⟩

theorem drawn_obstacle (options : Options) (subject : Subject) (joined : Joined subject.graph)
    (drawn : Drawn subject) (failure : Failure) :
    Obstacle options subject failure ↔ Refused (rawTexts options subject) failure := by
  constructor
  · intro obstacle
    cases obstacle with
    | edge index edge id first =>
        exact absurd (joined edge first.member) first.bad
    | text _ _ refused => exact refused
    | box index node _ _ first =>
        exact absurd (drawn.placed node first.member) first.bad
    | route index _ _ _ first =>
        have bound := List.mem_range.mp first.member
        exact absurd (drawn.routed index bound) first.bad
  · exact .text failure joined

theorem write_refused (options : Options) (subject : Subject) (ready : Ready {} subject)
    (failure : Failure) :
    write options subject = .error failure ↔ Refused (metadata options) failure := by
  have split : rawTexts options subject = .text subject.token :: (metadata options ++
      (.text subject.processId :: subject.graph.nodes.map fun node => .text node.elementId)) := rfl
  rw [write_fails, drawn_obstacle options subject ready.connected ready.drawn, split,
    refused_tail _ _ _ (ready.texts _ List.mem_cons_self), refused_front]
  intro stamp member
  apply ready.texts stamp
  rw [rawTexts, List.mem_append]
  rcases List.mem_cons.mp member with rfl | node
  · exact .inl (by simp)
  · exact .inr node

end ProcessDiagram.Document
