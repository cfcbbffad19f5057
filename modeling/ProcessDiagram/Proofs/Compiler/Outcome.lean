import ProcessDiagram.Compiler.Compilation
import ProcessDiagram.Proofs.Document.Success
import ProcessDiagram.Proofs.Layout.Placement
import ProcessDiagram.Proofs.Validation.Clash
import ProcessDiagram.Proofs.Validation.Verdict

set_option autoImplicit false

namespace ProcessDiagram

open Identifier (isHex)

namespace Compilation

open Validation (Clear documentIds duplicateOf)

theorem compile_runs (config : Config) (archetypes : Archetypes) (data : Json) (digits : String)
    (result : Compilation) (compiled : compile config archetypes data digits = .ok result) :
    graphOf config archetypes (descriptionOf data) (Identifier.tokenOf digits) = .ok result.graph ∧
      (∃ subject : Document.Subject, subject.graph = result.graph ∧
        Document.write config.document subject = .ok result.xml) ∧
      reportOf config result.xml = .ok result.report := by
  rw [compile_described, Each.renamed_ok] at compiled
  obtain ⟨graph, found, compiled⟩ := Each.bind_ok _ _ _ compiled
  obtain ⟨diagram, _, compiled⟩ := Each.bind_ok _ _ _ compiled
  obtain ⟨xml, written, compiled⟩ := Each.bind_ok _ _ _ compiled
  obtain ⟨report, checked, compiled⟩ := Each.bind_ok _ _ _ compiled
  cases compiled
  exact ⟨found, ⟨_, rfl, (Each.renamed_ok _ _ _).mp written⟩, checked⟩

def configOf (honorGateways includeDocumentation : Bool) (strategy : Strategy) : Config where
  document := { includeDocumentation }
  strategy
  honorGateways

theorem token_length (digits : String) (long : digits.length = 32) :
    (Identifier.tokenOf digits).length = Identifier.tokenLength := by
  rw [Identifier.tokenOf, String.length_ofList, List.length_take, String.length_toList, long]
  rfl

theorem token_nonempty (digits : String) (long : digits.length = 32) :
    (Identifier.tokenOf digits).toList ≠ [] := by
  have size := token_length digits long
  intro none
  rw [← String.length_toList, none] at size
  cases size

theorem process_id_named (name : String) (graph : Graph) (token : String)
    (hex : ∀ c ∈ token.toList, isHex c) : Identifier.Named (processIdOf name graph token) := by
  rw [processIdOf]
  split
  · intro c member
    rw [String.toList_append] at member
    have front : ∀ c ∈ "Process_".toList, Identifier.isNameChar c :=
      List.all_eq_true.mp (by decide)
    rcases List.mem_append.mp member with before | behind
    · exact front c before
    · exact Identifier.hex_named c (hex c behind)
  · exact Identifier.sanitize_named name

variable (honorGateways includeDocumentation : Bool) (strategy : Strategy)

theorem graph_of_ok (description : Description) (token : String)
    (hex : ∀ c ∈ token.toList, isHex c) (nonempty : token.toList ≠ []) :
    ∃ graph, graphOf (configOf honorGateways includeDocumentation strategy) defaultArchetypes
      description token = .ok graph ∧ graph.Built := by
  obtain ⟨graph, found, built⟩ :=
    Graph.description_built Float.ofInt honorGateways description token hex nonempty
  refine ⟨graph, ?_, built⟩
  rw [graphOf, defaultArchetypes, configOf, found]
  rfl

theorem diagram_of_ok (graph : Graph) (sound : graph.Sound) :
    ∃ diagram, diagramOf (configOf honorGateways includeDocumentation strategy) defaultArchetypes
      graph = .ok diagram ∧
      (∀ node ∈ graph.nodes, ∃ box, Table.get? node.id diagram.boxes = some box) ∧
      ∀ index < graph.edges.length, ∃ points,
        Table.get? (index : Int) diagram.routes = some points ∧ 2 ≤ points.length := by
  obtain ⟨diagram, found, placed, routed⟩ :=
    Diagram.sound_laid_out (Archetype.tables defaultArchetypes) strategy graph sound
  refine ⟨diagram, ?_, placed, routed⟩
  rw [diagramOf, configOf, found]
  rfl

theorem ready_to_write (subject : Document.Subject) (sound : subject.graph.Sound)
    (issued : ∀ node ∈ subject.graph.nodes, Allocator.Issued node.elementId)
    (hex : ∀ c ∈ subject.token.toList, isHex c) (named : Identifier.Named subject.processId)
    (placed : ∀ node ∈ subject.graph.nodes, ∃ box,
      Table.get? node.id subject.diagram.boxes = some box)
    (routed : ∀ index < subject.graph.edges.length, ∃ points,
      Table.get? (index : Int) subject.diagram.routes = some points ∧ 2 ≤ points.length) :
    Document.Ready (configOf honorGateways includeDocumentation strategy).document subject := by
  refine ⟨sound.connected, ?_, placed, routed⟩
  have token : Identifier.Named subject.token := fun c member =>
    Identifier.hex_named c (hex c member)
  intro stamp member
  simp only [Document.rawTexts, configOf, List.cons_append, List.nil_append, List.mem_cons,
    List.mem_map] at member
  rcases member with rfl | rfl | rfl | rfl | rfl | ⟨node, inside, rfl⟩
  · exact Document.raw_text_checked _ (Identifier.named_allowed _ token)
  · rfl
  · rfl
  · rfl
  · exact Document.raw_text_checked _ (Identifier.named_allowed _ named)
  · exact Document.raw_text_checked _
      (Identifier.named_allowed _ (issued node inside).named)

theorem written_validated (options : Document.Options) (subject : Document.Subject) (text : String)
    (built : subject.graph.Built) (written : Document.write options subject = .ok text) :
    ∃ root metrics, Xml.read text = some root ∧
      Validation.idsOf root = documentIds subject.processId subject.token subject.graph ∧
      Validation.validate text = ⟨Validation.duplicateIds root, some metrics⟩ := by
  obtain ⟨parts, read⟩ := Document.read_written text written
  have checked : Validation.validate text = ⟨Validation.duplicateIds parts.restored,
      some (Validation.metricsOf (Validation.outlineOf parts))⟩ := by
    rw [Validation.validate, read]
    exact Validation.check_sound parts built.sound built.ended
  exact ⟨parts.restored, _, read, Validation.ids_restored parts, checked⟩

theorem written_checked (options : Document.Options) (subject : Document.Subject)
    (built : subject.graph.Built) (ready : Document.Ready options subject) :
    ∃ text root metrics, Document.write options subject = .ok text ∧ Xml.read text = some root ∧
      Validation.idsOf root = documentIds subject.processId subject.token subject.graph ∧
      Validation.validate text = ⟨Validation.duplicateIds root, some metrics⟩ := by
  obtain ⟨text, written⟩ := Document.write_ok options subject ready
  obtain ⟨root, metrics, checked⟩ := written_validated options subject text built written
  exact ⟨text, root, metrics, written, checked⟩

theorem stages_pass (data : Json) (digits : String) (long : digits.length = 32)
    (hex : ∀ c ∈ digits.toList, isHex c) :
    ∃ graph diagram text root metrics,
      graphOf (configOf honorGateways includeDocumentation strategy) defaultArchetypes
        (descriptionOf data) (Identifier.tokenOf digits) = .ok graph ∧ graph.Built ∧
      Xml.read text = some root ∧
      Validation.idsOf root = documentIds
        (processIdOf (descriptionOf data).name graph (Identifier.tokenOf digits))
        (Identifier.tokenOf digits) graph ∧
      Validation.validate text = ⟨Validation.duplicateIds root, some metrics⟩ ∧
      compile (configOf honorGateways includeDocumentation strategy) defaultArchetypes data digits =
        ((reportOf (configOf honorGateways includeDocumentation strategy) text).map fun report =>
          Compilation.mk text (processIdOf (descriptionOf data).name graph (Identifier.tokenOf digits))
            (Identifier.tokenOf digits) graph diagram report).mapError Failure.later := by
  have tokenHex := Identifier.token_hex digits hex
  obtain ⟨graph, graphFound, built⟩ := graph_of_ok honorGateways includeDocumentation strategy
    (descriptionOf data) (Identifier.tokenOf digits) tokenHex (token_nonempty digits long)
  obtain ⟨diagram, diagramFound, placed, routed⟩ :=
    diagram_of_ok honorGateways includeDocumentation strategy graph built.sound
  have named := process_id_named (descriptionOf data).name graph (Identifier.tokenOf digits) tokenHex
  refine ⟨graph, diagram, ?_⟩
  -- From here on it does not matter what the id of the process is made of.
  generalize chosen : processIdOf (descriptionOf data).name graph (Identifier.tokenOf digits) =
    processId at named ⊢
  have ready := ready_to_write honorGateways includeDocumentation strategy
    ⟨processId, Identifier.tokenOf digits, (descriptionOf data).name,
      (descriptionOf data).description, graph, diagram⟩ built.sound built.issued tokenHex named placed
    routed
  obtain ⟨text, root, metrics, written, read, shown, validated⟩ := written_checked _ _ built ready
  refine ⟨text, root, metrics, graphFound, built, read, shown, validated, ?_⟩
  rw [compile_described, ofDescription, graphFound]
  simp only [bind, Except.bind, ofGraph, diagramFound, chosen]
  rw [written]
  rfl

theorem report_of_ids (config : Config) (checks : config.validateOutput = true) (text : String)
    (root : Validation.Element) (metrics : Metrics)
    (validated : Validation.validate text = ⟨Validation.duplicateIds root, some metrics⟩) :
    ((Validation.idsOf root).Nodup → reportOf config text = .ok (some ⟨[], some metrics⟩)) ∧
      (¬ (Validation.idsOf root).Nodup →
        reportOf config text = .error (.invalidDocument (Validation.duplicateIds root))) := by
  have errors : (Report.mk (Validation.duplicateIds root) (some metrics)).errors =
      Validation.duplicateIds root := Validation.level_all _ _ (Validation.grave_duplicates root) _
  have valid : (Report.mk (Validation.duplicateIds root) (some metrics)).isValid ↔
      (Validation.idsOf root).Nodup := by
    rw [Report.isValid, errors, List.isEmpty_iff, Validation.no_duplicates]
  rw [reportOf, if_pos checks, validated]
  constructor
  · intro distinct
    rw [if_pos (valid.mpr distinct), (Validation.no_duplicates root).mpr distinct]
  · intro clash
    rw [if_neg (fun good => clash (valid.mp good)), errors]

theorem report_passed (config : Config) (checks : config.validateOutput = true) (text : String)
    (report : Option Report) (checked : reportOf config text = .ok report) :
    report = some (Validation.validate text) ∧ (Validation.validate text).isValid = true := by
  rw [reportOf, if_pos checks] at checked
  by_cases valid : (Validation.validate text).isValid = true
  · simp only [valid, if_true, Except.ok.injEq] at checked
    exact ⟨checked.symm, valid⟩
  · simp only [valid, Bool.false_eq_true, if_false, reduceCtorEq] at checked

/-- With default texts and the output checked, every compilation passes all stages up to the check, and
the check fails exactly when two ids of the document are equal: it reports each such id. -/
theorem compiles_unless_ids_clash (data : Json) (digits : String) (long : digits.length = 32)
    (hex : ∀ c ∈ digits.toList, isHex c) :
    ∃ graph processId ids,
      graphOf (configOf honorGateways includeDocumentation strategy) defaultArchetypes
        (descriptionOf data) (Identifier.tokenOf digits) = .ok graph ∧
      processId = processIdOf (descriptionOf data).name graph (Identifier.tokenOf digits) ∧
      ids = documentIds processId (Identifier.tokenOf digits) graph ∧
      ((Clear processId (Identifier.tokenOf digits) graph ∧ ∃ result metrics root,
        compile (configOf honorGateways includeDocumentation strategy) defaultArchetypes data digits =
          .ok result ∧
        result.graph = graph ∧ result.report = some ⟨[], some metrics⟩ ∧
        Xml.read result.xml = some root ∧ Validation.idsOf root = ids ∧ ids.Nodup) ∨
      (¬ Clear processId (Identifier.tokenOf digits) graph ∧ ∃ issues,
        compile (configOf honorGateways includeDocumentation strategy) defaultArchetypes data digits =
          .error (.later (.invalidDocument issues)) ∧
        issues ≠ [] ∧
        ∀ issue, issue ∈ issues ↔ ∃ id, 1 < ids.count id ∧ issue = duplicateOf ids id)) := by
  obtain ⟨graph, diagram, text, root, metrics, found, built, read, shown, validated, compiled⟩ :=
    stages_pass honorGateways includeDocumentation strategy data digits long hex
  have clear := Validation.ids_distinct_iff
    (processIdOf (descriptionOf data).name graph (Identifier.tokenOf digits)) _ graph built
    (Identifier.token_hex digits hex) (token_nonempty digits long)
  obtain ⟨passes, fails⟩ := report_of_ids (configOf honorGateways includeDocumentation strategy) rfl
    text root metrics validated
  refine ⟨graph, _, _, found, rfl, rfl, ?_⟩
  rw [← clear, compiled]
  rw [shown] at passes fails
  by_cases distinct : (documentIds
      (processIdOf (descriptionOf data).name graph (Identifier.tokenOf digits))
      (Identifier.tokenOf digits) graph).Nodup
  · left
    rw [passes distinct]
    exact ⟨distinct, _, metrics, root, rfl, rfl, rfl, read, shown, distinct⟩
  · right
    rw [fails distinct]
    refine ⟨distinct, _, rfl, ?_, ?_⟩
    · rw [Ne, Validation.no_duplicates, shown]
      exact distinct
    · intro issue
      rw [Validation.mem_duplicates, shown]

/-- One step, which takes the id of the whole document for itself. -/
def definitionsStep : Json :=
  .record [("steps", .list [.record [("id", .text "Definitions")]])]

def zeros : String :=
  String.ofList (List.replicate 32 '0')

theorem definitions_step_fails :
    zeros.length = 32 ∧ (∀ c ∈ zeros.toList, isHex c) ∧
      ∃ issues, compile {} defaultArchetypes definitionsStep zeros =
        .error (.later (.invalidDocument issues)) ∧ issues ≠ [] := by
  have long : zeros.length = 32 := by decide
  have hex : ∀ c ∈ zeros.toList, isHex c := List.all_eq_true.mp (by decide)
  obtain ⟨graph, processId, ids, found, _, _, outcome⟩ :=
    compiles_unless_ids_clash false true .auto definitionsStep zeros long hex
  refine ⟨long, hex, ?_⟩
  rcases outcome with ⟨clear, _⟩ | ⟨_, issues, failed, some_issue, _⟩
  · have chosen := Graph.generic_chosen defaultArchetypes false (descriptionOf definitionsStep)
      (Identifier.tokenOf zeros) (Identifier.token_hex zeros hex) (token_nonempty zeros long) rfl
    have same : graph = Graph.generic (descriptionOf definitionsStep) false
        (Identifier.tokenOf zeros) := by
      rw [graphOf, configOf, chosen] at found
      exact (Except.ok.inj found).symm
    have element : "Definitions_00000000" ∈ graph.nodes.map Node.elementId := by
      rw [same]
      decide +kernel
    exact absurd List.mem_cons_self (clear.elements _ element)
  · exact ⟨issues, failed, some_issue⟩

end Compilation

end ProcessDiagram
