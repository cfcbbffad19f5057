import ProcessDiagram.Proofs.Graph.Construction
import ProcessDiagram.Proofs.Layout.Parking
import ProcessDiagram.Proofs.Layout.Plain

set_option autoImplicit false

namespace ProcessDiagram

theorem Node.plain_fixed (nodes twin : List Node)
    (same : nodes.map Node.fixed = twin.map Node.fixed) :
    nodes.map Node.plain = twin.map Node.plain := by
  let plainOf (fixed : (String × NodeKind) × Option String) : Node :=
    { id := fixed.1.1, elementId := "", kind := fixed.1.2, role := fixed.2 }
  have told : ∀ list : List Node, list.map Node.plain = (list.map Node.fixed).map plainOf := by
    intro list
    rw [List.map_map]
    rfl
  rw [told nodes, told twin, same]

theorem Placement.by_role_alike (table : RoleTable ℚ) (nodes twin : List Node)
    (same : nodes.map Node.fixed = twin.map Node.fixed) :
    byRole table nodes = byRole table twin := by
  rw [← by_role_plain table nodes, Node.plain_fixed nodes twin same, by_role_plain table twin]

def Shape.nodes (shape : Shape) : List Node :=
  shape.places.zipIdx.map fun entry =>
    { id := Draft.nodeId (entry.2 + 1), elementId := entry.1.role, kind := entry.1.kind,
      role := some entry.1.role }

def Shape.roleTable (shape : Shape) : RoleTable ℚ :=
  shape.table.map fun (role, x, y) => (role, Scalar.ofInt x, Scalar.ofInt y)

namespace Archetype

def exact : List (Archetype ℚ) :=
  catalog Scalar.ofInt

theorem shapes_apart : ∀ shape ∈ shapes,
    Diagram.overlapsIn (Placement.byRole shape.roleTable shape.nodes) = [] := by
  simp only [shapes, List.forall_mem_cons]
  exact ⟨by decide +kernel, by decide +kernel, by simp⟩

theorem exact_table : ∀ archetype ∈ exact,
    Table.get? archetype.name (tables exact) = some archetype.places := by
  simp only [exact, catalog, List.forall_mem_cons]
  exact ⟨rfl, rfl, by simp⟩

theorem exact_built (archetype : Archetype ℚ) (known : archetype ∈ exact)
    (description : Description) (token : String) :
    ∃ shape ∈ shapes, archetype.places = shape.roleTable ∧ ∃ graph : Graph,
      Graph.ofArchetype archetype description token = .ok graph ∧
      graph.archetype = some archetype.name ∧ graph.Sound ∧
      graph.nodes.map Node.fixed = shape.nodes.map Node.fixed := by
  obtain ⟨shape, member, recipe, places⟩ := catalog_shapes _ archetype known
  refine ⟨shape, member, places, shape.filled description archetype.name token,
    shape_filled archetype shape recipe description token, rfl,
    filled_sound shape member description archetype.name token, ?_⟩
  rw [Shape.nodes, List.map_map]
  exact (shape.actions_run description token).1

end Archetype

theorem Strategy.resolve_archetype (requested : Strategy) (hasTable : Bool) (graph : Graph)
    (chosen : requested.resolve hasTable graph = .archetype) : hasTable = true := by
  cases hasTable with
  | true => rfl
  | false =>
      cases requested with
      | auto => by_cases gateways : graph.hasGateways <;> simp [resolve, gateways] at chosen
      | lanes =>
          by_cases level : graph.hasGateways || graph.actors.length < 2
          · rw [resolve, if_pos level] at chosen
            cases chosen
          · rw [resolve, if_neg level] at chosen
            cases chosen
      | linear => cases chosen
      | layered => cases chosen
      | archetype => cases chosen

namespace Diagram

theorem by_table (tables : Table String (RoleTable ℚ)) (requested : Strategy) (graph : Graph)
    (byTable : strategyFor tables requested graph = .archetype) :
    ∃ table, tableFor? tables graph = some table ∧
      place tables (strategyFor tables requested graph) graph =
        .ok (Placement.byRole table graph.nodes) := by
  have given := Strategy.resolve_archetype requested _ graph byTable
  obtain ⟨table, found⟩ := Option.isSome_iff_exists.mp given
  refine ⟨table, found, ?_⟩
  rw [byTable, place, found]
  rfl

-- A graph that a table can place, and is placed by without overlaps.
structure Clear (tables : Table String (RoleTable ℚ)) (graph : Graph) : Prop where
  placed : strategyFor tables .archetype graph = .archetype
  apart : ∀ requested, strategyFor tables requested graph = .archetype →
    ∃ diagram : Diagram ℚ, ofGraph tables requested graph = .ok diagram ∧
      diagram.overlappingPairs = []

theorem known_clear (archetype : Archetype ℚ) (known : archetype ∈ Archetype.exact)
    (description : Description) (token : String) :
    ∃ graph, Graph.ofArchetype archetype description token = .ok graph ∧ graph.Sound ∧
      Clear (Archetype.tables Archetype.exact) graph := by
  obtain ⟨shape, member, places, graph, built, named, sound, nodes⟩ :=
    Archetype.exact_built archetype known description token
  have table : tableFor? (Archetype.tables Archetype.exact) graph = some shape.roleTable := by
    rw [tableFor?, named, Option.bind_some, Archetype.exact_table archetype known, places]
  refine ⟨graph, built, sound, ?_, ?_⟩
  · rw [strategyFor, table]
    rfl
  · intro requested byTable
    obtain ⟨found, same, placed⟩ := by_table _ requested graph byTable
    obtain rfl : shape.roleTable = found := Option.some.inj (table.symm.trans same)
    have whole := place_whole _ _ graph _ placed
    obtain ⟨diagram, drawn, boxes, _⟩ :=
      of_graph_ok _ requested graph sound.connected _ placed whole
    refine ⟨diagram, drawn, ?_⟩
    rw [overlappingPairs, boxes,
      Placement.by_role_alike shape.roleTable graph.nodes shape.nodes nodes]
    exact Archetype.shapes_apart shape member

/-- Under any table of places a node that the table leaves over stands clear of all others, and the tables
of the known archetypes place all their nodes apart. -/
theorem parked_stand_clear :
    (∀ (tables : Table String (RoleTable ℚ)) (requested : Strategy) (graph : Graph),
      graph.ids.Nodup → strategyFor tables requested graph = .archetype →
      ∃ table boxes, tableFor? tables graph = some table ∧
        place tables (strategyFor tables requested graph) graph = .ok boxes ∧
        Placement.Parked table graph.nodes boxes ∧
        (∀ diagram, ofGraph tables requested graph = .ok diagram → diagram.boxes = boxes) ∧
        ((∀ edge ∈ graph.edges, edge.source ∈ graph.ids ∧ edge.target ∈ graph.ids) →
          ∃ diagram, ofGraph tables requested graph = .ok diagram)) ∧
    ∀ archetype ∈ Archetype.exact, ∀ (description : Description) (token : String),
      ∃ graph, Graph.ofArchetype archetype description token = .ok graph ∧
        (Archetype.find? Archetype.exact description = some archetype → ∀ honorGateways,
          Graph.ofDescription Archetype.exact honorGateways description token = .ok graph) ∧
        Clear (Archetype.tables Archetype.exact) graph := by
  constructor
  · intro tables requested graph distinct byTable
    obtain ⟨table, found, placed⟩ := by_table tables requested graph byTable
    refine ⟨table, _, found, placed, Placement.by_role_parked table graph.nodes distinct, ?_, ?_⟩
    · intro diagram drawn
      have made := (of_graph_made tables requested graph diagram drawn).1
      exact (Except.ok.inj (placed.symm.trans made)).symm
    · intro connected
      obtain ⟨diagram, drawn, _⟩ := of_graph_ok tables requested graph connected _ placed
        (place_whole tables _ graph _ placed)
      exact ⟨diagram, drawn⟩
  · intro archetype known description token
    obtain ⟨graph, built, sound, clear⟩ := known_clear archetype known description token
    exact ⟨graph, built, fun chosen honorGateways => Graph.shaped_accepted Archetype.exact
      honorGateways description token archetype chosen graph built sound, clear⟩

/-- Two nodes that a table puts upon each other, above the origin; a role that it does not know and
a node without a role. -/
def partialGraph : Graph where
  archetype := some "partial"
  nodes := [
    { id := "stray", elementId := "Stray", kind := .task, role := some "unknown" },
    { id := "start", elementId := "Start", kind := .startEvent, role := some "start" },
    { id := "check", elementId := "Check", kind := .exclusiveGateway, role := some "check" },
    { id := "end", elementId := "End", kind := .endEvent }]
  edges := [
    { source := "start", target := "check" },
    { source := "check", target := "stray", condition := some "a" },
    { source := "check", target := "end", condition := some "b" },
    { source := "stray", target := "end" }]

def partialTable : RoleTable ℚ :=
  [("start", -40, -100), ("", 0, 0), ("check", -20, -107)]

def partialTables : Table String (RoleTable ℚ) :=
  [("partial", partialTable)]

theorem partial_parked :
    partialGraph.ids.Nodup ∧ strategyFor partialTables .auto partialGraph = .archetype ∧
      (∃ diagram : Diagram ℚ, ofGraph partialTables .auto partialGraph = .ok diagram ∧
        Placement.Parked partialTable partialGraph.nodes diagram.boxes ∧
        diagram.overlappingPairs = [("start", "check")]) ∧
      Archetype.invoice Scalar.ofInt ∈ Archetype.exact ∧
      Archetype.find? Archetype.exact { name := "Invoice processing" } =
        some (Archetype.invoice Scalar.ofInt) ∧
      ∃ graph, Graph.ofDescription Archetype.exact true { name := "Invoice processing" } "0" =
        .ok graph ∧ Clear (Archetype.tables Archetype.exact) graph := by
  have distinct : partialGraph.ids.Nodup := by decide
  have byTable : strategyFor partialTables .auto partialGraph = .archetype := rfl
  obtain ⟨table, boxes, found, placed, parked, only, drawn⟩ :=
    parked_stand_clear.1 partialTables .auto partialGraph distinct byTable
  obtain rfl : partialTable = table := Option.some.inj found
  obtain ⟨diagram, made⟩ := drawn (by decide)
  have same := only diagram made
  have computed : (place partialTables .archetype partialGraph).toOption.map overlapsIn =
      some [("start", "check")] := by
    decide +kernel
  rw [← byTable, placed] at computed
  have pairs : diagram.overlappingPairs = [("start", "check")] := by
    rw [overlappingPairs, same]
    exact Option.some.inj computed
  have known : Archetype.invoice Scalar.ofInt ∈ Archetype.exact := List.mem_cons_self
  have chosen : Archetype.find? Archetype.exact { name := "Invoice processing" } =
      some (Archetype.invoice Scalar.ofInt) := rfl
  obtain ⟨graph, _, accepted, clear⟩ :=
    parked_stand_clear.2 _ known { name := "Invoice processing" } "0"
  exact ⟨distinct, byTable, ⟨diagram, made, same ▸ parked, pairs⟩, known, chosen, graph,
    accepted chosen true, clear⟩

end Diagram

end ProcessDiagram
