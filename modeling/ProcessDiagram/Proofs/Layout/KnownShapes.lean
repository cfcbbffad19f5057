import ProcessDiagram.Proofs.Graph.Skeleton
import ProcessDiagram.Proofs.Layout.Overlap
import ProcessDiagram.Proofs.Layout.Plain

set_option autoImplicit false

namespace ProcessDiagram

theorem Graph.skeleton_plain (graph : Graph) : graph.skeleton.plain = graph.plain := by
  rw [plain, plain, skeleton, List.map_map]
  rfl

theorem Shape.filled_gateways (shape : Shape) (member : shape ∈ Archetype.shapes)
    (description : Description) (name token : String) :
    (shape.filled description name token).hasGateways = true := by
  have branched : ∀ shape ∈ Archetype.shapes, shape.outline.hasGateways = true := by decide
  have kinds : ∀ graph : Graph, graph.hasGateways =
      (graph.nodes.map Node.idAndKind).any fun pair => pair.2.isGateway := by
    intro graph
    rw [List.any_map]
    rfl
  rw [kinds, (shape.filled_outlines description name token).nodes, ← kinds]
  exact branched shape member

namespace Diagram

variable {Number : Type} [Scalar Number]

theorem skeleton_laid_out (tables : Table String (RoleTable Number)) (requested : Strategy)
    (graph twin : Graph) (same : graph.skeleton = twin.skeleton)
    (branched : graph.hasGateways = true) (also : twin.hasGateways = true) :
    ofGraph tables requested graph = ofGraph tables requested twin := by
  rw [← of_graph_plain tables requested graph branched, ← graph.skeleton_plain, same,
    twin.skeleton_plain, of_graph_plain tables requested twin also]

/-- Descriptions that the same known archetype accepts first have graphs that differ in texts alone, and
the same diagram. -/
theorem known_archetypes_fixed {Coordinate : Type} (coordinate : Int → Coordinate)
    (archetypes : List (Archetype Coordinate)) (archetype : Archetype Coordinate)
    (known : archetype ∈ Archetype.catalog coordinate) (one two : Description)
    (chosen : Archetype.find? archetypes one = some archetype)
    (also : Archetype.find? archetypes two = some archetype) (token : String) :
    ∃ graph twin : Graph,
      (∀ honorGateways, Graph.ofDescription archetypes honorGateways one token = .ok graph) ∧
      (∀ honorGateways, Graph.ofDescription archetypes honorGateways two token = .ok twin) ∧
      graph.skeleton = twin.skeleton ∧ graph.name = one.name ∧ twin.name = two.name ∧
      one.TellsTasks graph.nodes ∧ two.TellsTasks twin.nodes ∧
      ∀ (tables : Table String (RoleTable Number)) (requested : Strategy), ∃ diagram,
        ofGraph tables requested graph = .ok diagram ∧
        ofGraph tables requested twin = .ok diagram := by
  obtain ⟨shape, member, recipe, _⟩ := Archetype.catalog_shapes coordinate archetype known
  have sound := fun description =>
    Archetype.filled_sound shape member description archetype.name token
  have built : ∀ description, Archetype.find? archetypes description = some archetype →
      ∀ honorGateways, Graph.ofDescription archetypes honorGateways description token =
        .ok (shape.filled description archetype.name token) := by
    intro description first honorGateways
    have filled := Archetype.shape_filled archetype shape recipe description token
    exact Graph.shaped_accepted archetypes honorGateways description token archetype first _ filled
      (sound description)
  have alike := shape.filled_alike one two archetype.name token
  refine ⟨_, _, built one chosen, built two also, alike, rfl, rfl,
    shape.filled_told member one archetype.name token,
    shape.filled_told member two archetype.name token, ?_⟩
  intro tables requested
  obtain ⟨diagram, drawn, _⟩ := sound_laid_out tables requested _ (sound one)
  refine ⟨diagram, drawn, ?_⟩
  rw [← skeleton_laid_out tables requested _ _ alike
    (shape.filled_gateways member one archetype.name token)
    (shape.filled_gateways member two archetype.name token), drawn]

def bareInvoice : Description where
  name := "Invoice Processing"

/-- The same archetype in other words, with two steps for one of its tasks and a decision that it
does not know. -/
def tellingInvoice : Description where
  name := "Handling of an invoice"
  steps := [
    { name := "Processing of the post" },
    { name := " invoice INTAKE", description := "Stamp it", actor := "clerk" },
    { name := "Invoice Intake", actor := "chief" },
    { id := some "check", name := "Initial Validation", kind := .gateway, actor := "chief" }]
  gateways := [{ id := "check", outcomes := ["good", "bad"] }]

theorem telling_invoice_fixed :
    Archetype.find? (Archetype.catalog Scalar.ofInt) bareInvoice =
        some (Archetype.invoice (Scalar.ofInt : Int → ℚ)) ∧
      Archetype.find? (Archetype.catalog Scalar.ofInt) tellingInvoice =
        some (Archetype.invoice (Scalar.ofInt : Int → ℚ)) ∧
      ∃ (graph twin : Graph) (diagram : Diagram ℚ),
        Graph.ofDescription (Archetype.catalog (Scalar.ofInt : Int → ℚ)) false bareInvoice "0" =
          .ok graph ∧
        Graph.ofDescription (Archetype.catalog (Scalar.ofInt : Int → ℚ)) true tellingInvoice "0" =
          .ok twin ∧
        graph.skeleton = twin.skeleton ∧
        tellingInvoice.TellsTasks twin.nodes ∧
        tellingInvoice.Tells "Invoice Intake" "Stamp it" "clerk" ∧
        ofGraph [] .lanes graph = .ok diagram ∧ ofGraph [] .lanes twin = .ok diagram := by
  have chosen : Archetype.find? (Archetype.catalog Scalar.ofInt) bareInvoice =
      some (Archetype.invoice (Scalar.ofInt : Int → ℚ)) := rfl
  have also : Archetype.find? (Archetype.catalog Scalar.ofInt) tellingInvoice =
      some (Archetype.invoice (Scalar.ofInt : Int → ℚ)) := rfl
  obtain ⟨graph, twin, built, rebuilt, same, _, _, _, told, drawn⟩ := @known_archetypes_fixed ℚ _ ℚ
    Scalar.ofInt _ _ List.mem_cons_self bareInvoice tellingInvoice chosen also "0"
  obtain ⟨diagram, one, two⟩ := drawn [] .lanes
  have found : Action.stepNamed? tellingInvoice "Invoice Intake" =
      some { name := " invoice INTAKE", description := "Stamp it", actor := "clerk" } := by
    decide +kernel
  exact ⟨chosen, also, graph, twin, diagram, built false, rebuilt true, same, told,
    tellingInvoice.found_tells _ _ found, one, two⟩

end Diagram

end ProcessDiagram
