import ProcessDiagram.Proofs.Document.Obstacle

set_option autoImplicit false

namespace ProcessDiagram.Document

open Xml (hasForbidden)

-- Both have the same texts, the same nodes by their ids, the same edges by their ends, and boxes and
-- routes for the same of them.
structure Alike (options others : Options) (subject other : Subject) : Prop where
  texts : rawTexts options subject = rawTexts others other
  ids : subject.graph.ids = other.graph.ids
  links : subject.graph.links = other.graph.links
  boxes : ∀ id ∈ subject.graph.ids, Placed subject.diagram id ↔ Placed other.diagram id
  routes : ∀ index < subject.graph.edges.length,
    Routed subject.diagram index ↔ Routed other.diagram index

def Failure.unlabelled : Failure → Failure
  | .withoutPosition _ elementId => .withoutPosition "" elementId
  | failure => failure

-- What comes of writing, but for the text and the label of a node.
def outcome (options : Options) (subject : Subject) : Except Failure Unit :=
  ((write options subject).map fun _ => ()).mapError Failure.unlabelled

theorem joined_links (graph : Graph) :
    Joined graph ↔ ∀ link ∈ graph.links, link.1 ∈ graph.ids ∧ link.2 ∈ graph.ids := by
  rw [Graph.links, List.forall_mem_map]
  rfl

theorem placed_ids (diagram : Diagram Float) (graph : Graph) :
    (∀ node ∈ graph.nodes, Placed diagram node.id) ↔ ∀ id ∈ graph.ids, Placed diagram id := by
  rw [Graph.ids, List.forall_mem_map]

section Alike

variable {options others : Options} {subject other : Subject}
  (alike : Alike options others subject other)

include alike

theorem Alike.joined : Joined subject.graph ↔ Joined other.graph := by
  rw [joined_links, joined_links, alike.ids, alike.links]

theorem Alike.count : subject.graph.edges.length = other.graph.edges.length := by
  simpa [Graph.links] using congrArg List.length alike.links

theorem Alike.token : subject.token = other.token :=
  Stamp.text.inj (List.cons.inj alike.texts).1

theorem Alike.element_ids :
    subject.graph.nodes.map Node.elementId = other.graph.nodes.map Node.elementId := by
  have shown := congrArg (List.map Stamp.shown) (congrArg (List.drop 5) alike.texts)
  simpa [rawTexts, Stamp.shown, Function.comp_def] using shown

theorem Alike.placed :
    (∀ node ∈ subject.graph.nodes, Placed subject.diagram node.id) ↔
      ∀ node ∈ other.graph.nodes, Placed other.diagram node.id := by
  rw [placed_ids, placed_ids, ← alike.ids]
  exact forall₂_congr alike.boxes

theorem Alike.drawn : Drawn subject ↔ Drawn other := by
  have routed : (∀ index < subject.graph.edges.length, Routed subject.diagram index) ↔
      ∀ index < other.graph.edges.length, Routed other.diagram index := by
    rw [← alike.count]
    exact forall₂_congr alike.routes
  exact ⟨fun drawn => ⟨alike.placed.mp drawn.placed, routed.mp drawn.routed⟩,
    fun drawn => ⟨alike.placed.mpr drawn.placed, routed.mpr drawn.routed⟩⟩

theorem Alike.edge (index : Nat) (edge : Edge) (id : String)
    (first : Each.First (Connected subject.graph) subject.graph.edges index edge)
    (lost : Lost subject.graph edge id) :
    ∃ twin, Each.First (Connected other.graph) other.graph.edges index twin ∧
      Lost other.graph twin id := by
  have links (graph : Graph) := Each.first_map
    (fun link : String × String => link.1 ∈ graph.ids ∧ link.2 ∈ graph.ids)
    (fun edge : Edge => (edge.source, edge.target)) graph.edges index (edge.source, edge.target)
  have mapped := (links subject.graph).mpr ⟨edge, first, rfl⟩
  have same : subject.graph.edges.map (fun edge => (edge.source, edge.target)) =
      other.graph.edges.map fun edge => (edge.source, edge.target) := alike.links
  rw [same, alike.ids] at mapped
  obtain ⟨twin, found, ends⟩ := (links other.graph).mp mapped
  obtain ⟨source, target⟩ := Prod.mk.inj ends
  refine ⟨twin, found, ?_⟩
  cases lost with
  | source unknown =>
      rw [← source]
      exact .source (by rwa [source, ← alike.ids])
  | target known unknown =>
      rw [← target]
      exact .target (by rwa [source, ← alike.ids]) (by rwa [target, ← alike.ids])

theorem Alike.node (index : Nat) (node : Node)
    (first : Each.First (fun one => Placed subject.diagram one.id) subject.graph.nodes index node) :
    ∃ twin, Each.First (fun one => Placed other.diagram one.id) other.graph.nodes index twin ∧
      twin.elementId = node.elementId := by
  have mapped := (Each.first_map (Placed subject.diagram) Node.id _ index node.id).mpr
    ⟨node, first, rfl⟩
  have moved := Each.first_congr _ _ _ _ _ alike.boxes mapped
  rw [alike.ids] at moved
  obtain ⟨twin, found, _⟩ := (Each.first_map (Placed other.diagram) Node.id _ index node.id).mp moved
  refine ⟨twin, found, ?_⟩
  have here := congrArg (fun texts : List String => texts[index]?) alike.element_ids
  simp only [List.getElem?_map, first.found, found.found, Option.map_some, Option.some.injEq] at here
  exact here.symm

theorem Alike.route (index : Nat)
    (first : Each.First (Routed subject.diagram) (List.range subject.graph.edges.length) index
      index) :
    Each.First (Routed other.diagram) (List.range other.graph.edges.length) index index := by
  rw [← alike.count]
  refine Each.first_congr _ _ _ _ _ ?_ first
  exact fun place member => alike.routes place (List.mem_range.mp member)

theorem Alike.obstacle (failure : Failure) (obstacle : Obstacle options subject failure) :
    ∃ twin, Obstacle others other twin ∧ twin.unlabelled = failure.unlabelled := by
  have words (worded : Worded (rawTexts options subject)) : Worded (rawTexts others other) :=
    alike.texts ▸ worded
  cases obstacle with
  | edge index edge id first lost =>
      obtain ⟨twin, found, same⟩ := alike.edge index edge id first lost
      exact ⟨_, .edge index twin id found same, rfl⟩
  | text _ joined refused =>
      exact ⟨failure, .text failure (alike.joined.mp joined) (alike.texts ▸ refused), rfl⟩
  | box index node joined worded first =>
      obtain ⟨twin, found, same⟩ := alike.node index node first
      refine ⟨_, .box index twin (alike.joined.mp joined) (words worded) found, ?_⟩
      rw [Failure.unlabelled, Failure.unlabelled, same]
  | route index joined worded placed first =>
      refine ⟨_, .route index (alike.joined.mp joined) (words worded) (alike.placed.mp placed)
        (alike.route index first), ?_⟩
      rw [alike.token]

theorem Alike.same_outcome : outcome options subject = outcome others other := by
  rw [outcome, outcome]
  cases run : write options subject with
  | ok text =>
      obtain ⟨joined, worded, drawn⟩ := (write_succeeds options subject).mp ⟨text, run⟩
      obtain ⟨twin, written⟩ := (write_succeeds others other).mpr
        ⟨alike.joined.mp joined, alike.texts ▸ worded, alike.drawn.mp drawn⟩
      rw [written]
      rfl
  | error failure =>
      obtain ⟨twin, obstacle, same⟩ := alike.obstacle failure ((write_fails ..).mp run)
      rw [(write_fails ..).mpr obstacle]
      exact congrArg Except.error same.symm

end Alike

section Texts

variable (targetNamespace exporter exporterVersion : String) (documented : Bool) (subject : Subject)

def writtenTexts : List String :=
  [subject.token, targetNamespace, exporter, exporterVersion, subject.processId] ++
    subject.graph.nodes.map Node.elementId

theorem raw_of_texts :
    rawTexts (.ofTexts targetNamespace exporter exporterVersion documented) subject =
      (writtenTexts targetNamespace exporter exporterVersion subject).map .text := by
  simp [rawTexts, writtenTexts, Options.ofTexts, Function.comp_def]

theorem texts_worded :
    Worded (rawTexts (.ofTexts targetNamespace exporter exporterVersion documented) subject) ↔
      ∀ value ∈ writtenTexts targetNamespace exporter exporterVersion subject,
        hasForbidden value = false := by
  rw [raw_of_texts, worded_texts]

theorem texts_obstacle :
    Obstacle (.ofTexts targetNamespace exporter exporterVersion documented) subject
        .forbiddenCharacter ↔
      Joined subject.graph ∧
        ∃ value ∈ writtenTexts targetNamespace exporter exporterVersion subject,
          hasForbidden value = true := by
  constructor
  · intro obstacle
    cases obstacle with
    | text _ joined refused =>
        rw [raw_of_texts, refused_texts_iff] at refused
        exact ⟨joined, refused.2⟩
  · rintro ⟨joined, held⟩
    refine .text _ joined ?_
    rw [raw_of_texts, refused_texts_iff]
    exact ⟨rfl, held⟩

/-- Writing fails exactly at an end of an edge that is no node; then at a text that is written as it
is and holds a forbidden character; then at a node without a box, or an edge without a route; and
what the subject holds besides does not matter. -/
theorem refused_exactly :
    (∀ failure,
      write (.ofTexts targetNamespace exporter exporterVersion documented) subject = .error failure ↔
        Obstacle (.ofTexts targetNamespace exporter exporterVersion documented) subject failure) ∧
    ((∃ number id,
      write (.ofTexts targetNamespace exporter exporterVersion documented) subject =
        .error (.unknownNode number id)) ↔ ¬ Joined subject.graph) ∧
    (write (.ofTexts targetNamespace exporter exporterVersion documented) subject =
        .error .forbiddenCharacter ↔
      Joined subject.graph ∧
        ∃ value ∈ writtenTexts targetNamespace exporter exporterVersion subject,
          hasForbidden value = true) ∧
    (((∃ label id,
        write (.ofTexts targetNamespace exporter exporterVersion documented) subject =
          .error (.withoutPosition label id)) ∨
        ∃ id, write (.ofTexts targetNamespace exporter exporterVersion documented) subject =
          .error (.withoutRoute id)) ↔
      Joined subject.graph ∧
        (∀ value ∈ writtenTexts targetNamespace exporter exporterVersion subject,
          hasForbidden value = false) ∧ ¬ Drawn subject) ∧
    ((∃ text,
      write (.ofTexts targetNamespace exporter exporterVersion documented) subject = .ok text) ↔
      Joined subject.graph ∧
        (∀ value ∈ writtenTexts targetNamespace exporter exporterVersion subject,
          hasForbidden value = false) ∧ Drawn subject) ∧
    ∀ others other,
      Alike (.ofTexts targetNamespace exporter exporterVersion documented) others subject other →
        outcome (.ofTexts targetNamespace exporter exporterVersion documented) subject =
          outcome others other := by
  have worded := texts_worded targetNamespace exporter exporterVersion documented subject
  have texts := texts_obstacle targetNamespace exporter exporterVersion documented subject
  have edges := edge_obstacle (.ofTexts targetNamespace exporter exporterVersion documented) subject
  have layout := layout_obstacle (.ofTexts targetNamespace exporter exporterVersion documented)
    subject
  have succeeds := write_succeeds (.ofTexts targetNamespace exporter exporterVersion documented)
    subject
  rw [worded] at layout succeeds
  simp only [← write_fails] at texts edges layout
  refine ⟨write_fails _ subject, edges, texts, layout, succeeds, ?_⟩
  intro others other alike
  exact alike.same_outcome

end Texts

/-- A start and an end, joined and drawn. -/
def straight : Subject where
  processId := "Tiny"
  token := "00000000"
  name := "Tiny"
  documentation := ""
  graph := {
    nodes := [{ id := "n1", elementId := "Start_x", kind := .startEvent, label := "Start" },
      { id := "n2", elementId := "End_x", kind := .endEvent, label := "End" }]
    edges := [{ source := "n1", target := "n2" }] }
  diagram := {
    strategy := .linear
    boxes := [("n1", ⟨0, 0, 36, 36⟩), ("n2", ⟨200, 0, 36, 36⟩)]
    routes := [(0, [⟨36, 18⟩, ⟨200, 18⟩])] }

/-- The same in other words, some of which hold a character that no document may hold, and with a box
and routes that nothing asks for. -/
def retold : Subject where
  processId := "Tiny"
  token := "00000000"
  name := "\x01"
  documentation := "From the start\x02"
  graph := {
    name := "retold"
    nodes := [{ id := "n1", elementId := "Start_x", kind := .task, documentation := "\x03" },
      { id := "n2", elementId := "End_x", kind := .task, actor := "clerk" }]
    edges := [{ source := "n1", target := "n2", condition := some "\x04" }] }
  diagram := {
    strategy := .layered
    boxes := [("n2", ⟨0, 0, 1, 1⟩), ("n3", ⟨0, 0, 1, 1⟩), ("n1", ⟨0, 0, 1, 1⟩)]
    routes := [(-1, []), (0, [⟨0, 0⟩, ⟨1, 0⟩, ⟨1, 1⟩]), (1, [])] }

theorem straight_joined : Joined straight.graph := by
  intro edge member
  rw [List.mem_singleton.mp member]
  exact ⟨by decide, by decide⟩

theorem straight_drawn : Drawn straight where
  placed := List.forall_mem_cons.mpr ⟨⟨_, rfl⟩, List.forall_mem_singleton.mpr ⟨_, rfl⟩⟩
  routed := by
    intro index bound
    obtain rfl : index = 0 := Nat.lt_one_iff.mp bound
    exact ⟨_, rfl, Nat.le_refl 2⟩

theorem retold_straight : Alike {} { includeDocumentation := false } straight retold where
  texts := rfl
  ids := rfl
  links := rfl
  boxes := List.forall_mem_cons.mpr ⟨iff_of_true ⟨_, rfl⟩ ⟨_, rfl⟩,
    List.forall_mem_singleton.mpr (iff_of_true ⟨_, rfl⟩ ⟨_, rfl⟩)⟩
  routes := by
    intro index bound
    obtain rfl : index = 0 := Nat.lt_one_iff.mp bound
    exact iff_of_true ⟨_, rfl, by decide⟩ ⟨_, rfl, by decide⟩

theorem retold_not_refused :
    (∃ text, write {} straight = .ok text) ∧
      outcome {} straight = outcome { includeDocumentation := false } retold := by
  obtain ⟨_, _, _, _, succeeds, unaffected⟩ :=
    refused_exactly "http://bpmn.io/schema/bpmn" "bpmn-mapgen" "1.0" true straight
  exact ⟨succeeds.mpr ⟨straight_joined, by decide, straight_drawn⟩, unaffected _ _ retold_straight⟩

end ProcessDiagram.Document
