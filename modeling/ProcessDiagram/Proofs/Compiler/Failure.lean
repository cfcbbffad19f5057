import ProcessDiagram.Proofs.Compiler.Outcome

set_option autoImplicit false

namespace ProcessDiagram

namespace Compilation

open Document (metadata Refused Worded)
open Identifier (isHex)
open Validation (documentIds)

theorem report_invalid (config : Config) (xml : String) (cause : Cause)
    (failed : reportOf config xml = .error cause) : ∃ issues, cause = .invalidDocument issues := by
  rw [reportOf] at failed
  split at failed
  · simp only at failed
    split at failed
    · cases failed
    · exact ⟨_, (Except.error.inj failed).symm⟩
  · cases failed

def subjectOf (description : Description) (token : String) (graph : Graph)
    (diagram : Diagram Float) : Document.Subject where
  processId := processIdOf description.name graph token
  token
  name := description.name
  documentation := description.description
  graph
  diagram

theorem subject_ready (description : Description) (token : String) (graph : Graph)
    (diagram : Diagram Float) (sound : graph.Sound)
    (issued : ∀ node ∈ graph.nodes, Allocator.Issued node.elementId)
    (hex : ∀ c ∈ token.toList, isHex c)
    (placed : ∀ node ∈ graph.nodes, ∃ box, Table.get? node.id diagram.boxes = some box)
    (routed : ∀ index < graph.edges.length, ∃ points,
      Table.get? (index : Int) diagram.routes = some points ∧ 2 ≤ points.length) :
    Document.Ready {} (subjectOf description token graph diagram) := by
  have named := process_id_named description.name graph token hex
  rw [subjectOf]
  generalize processIdOf description.name graph token = processId at named ⊢
  exact ready_to_write false true .auto ⟨processId, token, _, _, graph, diagram⟩ sound issued hex
    named placed routed

section Built

variable (config : Config) (archetypes : Archetypes) (data : Json) (digits : String)
  (long : digits.length = 32) (hex : ∀ c ∈ digits.toList, isHex c) (graph : Graph)
  (found : graphOf config archetypes (descriptionOf data) (Identifier.tokenOf digits) = .ok graph)

include long hex found

theorem graph_accepted :
    graph.Sound ∧ ∀ node ∈ graph.nodes, Allocator.Issued node.elementId := by
  rw [graphOf, Each.renamed_ok] at found
  exact Graph.accepted_sound archetypes _ _ _ (Identifier.token_hex digits hex)
    (token_nonempty digits long) graph found

theorem drawn_and_written (tables : Table String (RoleTable Float)) (requested : Strategy) :
    ∃ diagram : Diagram Float, Diagram.ofGraph tables requested graph = .ok diagram ∧
      ∀ options failure, Document.write options
          (subjectOf (descriptionOf data) (Identifier.tokenOf digits) graph diagram) =
            .error failure ↔ Refused (metadata options) failure := by
  obtain ⟨sound, issued⟩ := graph_accepted config archetypes data digits long hex graph found
  obtain ⟨diagram, drawn, placed, routed⟩ := Diagram.sound_laid_out tables requested graph sound
  have ready := subject_ready (descriptionOf data) (Identifier.tokenOf digits) graph diagram sound
    issued (Identifier.token_hex digits hex) placed routed
  exact ⟨diagram, drawn, fun options => Document.write_refused options _ ready⟩

theorem described_written :
    ∃ diagram : Diagram Float,
      (∀ failure, Document.write config.document
          (subjectOf (descriptionOf data) (Identifier.tokenOf digits) graph diagram) =
            .error failure ↔ Refused (metadata config.document) failure) ∧
      ofDescription config archetypes (descriptionOf data) (Identifier.tokenOf digits) = do
        let xml ← (Document.write config.document
          (subjectOf (descriptionOf data) (Identifier.tokenOf digits) graph diagram)).mapError
            Cause.document
        let report ← reportOf config xml
        return ⟨xml, processIdOf (descriptionOf data).name graph (Identifier.tokenOf digits),
          Identifier.tokenOf digits, graph, diagram, report⟩ := by
  obtain ⟨diagram, drawn, written⟩ := drawn_and_written config archetypes data digits long hex graph
    found (Archetype.tables archetypes) config.strategy
  refine ⟨diagram, written config.document, ?_⟩
  rw [ofDescription, found]
  simp only [bind, Except.bind, ofGraph, diagramOf, drawn]
  rfl

theorem described_fails (cause : Cause)
    (failed : ofDescription config archetypes (descriptionOf data) (Identifier.tokenOf digits) =
      .error cause) :
    (∃ failure, cause = .document failure ∧ Refused (metadata config.document) failure) ∨
      ∃ issues, cause = .invalidDocument issues := by
  obtain ⟨diagram, unwritten, steps⟩ :=
    described_written config archetypes data digits long hex graph found
  rw [steps, Each.bind_error] at failed
  rcases failed with first | ⟨xml, _, later⟩
  · obtain ⟨failure, written, same⟩ := (Each.renamed_error _ _ _).mp first
    exact .inl ⟨failure, same.symm, (unwritten failure).mp written⟩
  · rw [Each.bind_error] at later
    rcases later with reported | ⟨report, _, done⟩
    · exact .inr (report_invalid config xml cause reported)
    · cases done

theorem compile_refused_iff (failure : Document.Failure) :
    compile config archetypes data digits = .error (.later (.document failure)) ↔
      Refused (metadata config.document) failure := by
  rw [compile_described, Each.renamed_error]
  constructor
  · rintro ⟨cause, failed, same⟩
    cases same
    rcases described_fails config archetypes data digits long hex graph found _ failed with
      ⟨other, same, refused⟩ | ⟨issues, other⟩
    · cases same
      exact refused
    · cases other
  · intro refused
    obtain ⟨diagram, unwritten, steps⟩ :=
      described_written config archetypes data digits long hex graph found
    refine ⟨.document failure, ?_, rfl⟩
    rw [steps, (unwritten failure).mpr refused]
    rfl

end Built

theorem distinct_reported (config : Config) (text : String) (root : Validation.Element)
    (metrics : Metrics) (distinct : (Validation.idsOf root).Nodup)
    (validated : Validation.validate text = ⟨Validation.duplicateIds root, some metrics⟩) :
    ∃ report, reportOf config text = .ok report := by
  cases checks : config.validateOutput with
  | true => exact ⟨_, (report_of_ids config checks text root metrics validated).1 distinct⟩
  | false => exact ⟨none, by rw [reportOf, checks]; rfl⟩

-- Nothing keeps a graph of steps from being compiled but two equal ids, or the texts of the settings.
theorem generic_compiles (config : Config) (archetypes : Archetypes) (data : Json) (digits : String)
    (long : digits.length = 32) (hex : ∀ c ∈ digits.toList, isHex c)
    (strange : Archetype.find? archetypes (descriptionOf data) = none)
    (worded : Worded (metadata config.document))
    (distinct : (documentIds (processIdOf (descriptionOf data).name
        (Graph.generic (descriptionOf data) config.honorGateways (Identifier.tokenOf digits))
        (Identifier.tokenOf digits)) (Identifier.tokenOf digits)
      (Graph.generic (descriptionOf data) config.honorGateways
        (Identifier.tokenOf digits))).Nodup) :
    ∃ result, compile config archetypes data digits = .ok result := by
  have tokenHex := Identifier.token_hex digits hex
  have nonempty := token_nonempty digits long
  have built := Graph.generic_built (descriptionOf data) config.honorGateways _ tokenHex nonempty
  have found : graphOf config archetypes (descriptionOf data) (Identifier.tokenOf digits) =
      .ok (Graph.generic (descriptionOf data) config.honorGateways
        (Identifier.tokenOf digits)) := by
    rw [graphOf, Graph.generic_chosen archetypes config.honorGateways _ _ tokenHex nonempty strange]
    rfl
  obtain ⟨diagram, unwritten, steps⟩ :=
    described_written config archetypes data digits long hex _ found
  simp only [compile_described, Each.renamed_ok, steps]
  cases written : Document.write config.document (subjectOf (descriptionOf data)
      (Identifier.tokenOf digits) (Graph.generic (descriptionOf data) config.honorGateways
        (Identifier.tokenOf digits)) diagram) with
  | error failure =>
      exact absurd worded ((Document.refused_exists _).mp ⟨failure, (unwritten failure).mp written⟩)
  | ok text =>
      obtain ⟨root, metrics, _, shown, validated⟩ :=
        written_validated config.document _ text built written
      obtain ⟨report, reported⟩ := distinct_reported config text root metrics
        (by rw [shown]; exact distinct) validated
      simp only [Except.mapError, bind, Except.bind, reported]
      exact ⟨_, rfl⟩

theorem graph_fails (config : Config) (archetypes : Archetypes) (description : Description)
    (token : String) (cause : Cause)
    (failed : graphOf config archetypes description token = .error cause) :
    ∃ failure, cause = .construction failure := by
  rw [graphOf, Each.renamed_error] at failed
  obtain ⟨failure, _, same⟩ := failed
  exact ⟨failure, same.symm⟩

theorem described_stage (config : Config) (archetypes : Archetypes) (data : Json) (digits : String)
    (long : digits.length = 32) (hex : ∀ c ∈ digits.toList, isHex c) (cause : Cause)
    (failed : ofDescription config archetypes (descriptionOf data) (Identifier.tokenOf digits) =
      .error cause) : cause.stage ≠ .input ∧ cause.stage ≠ .layout := by
  cases found : graphOf config archetypes (descriptionOf data) (Identifier.tokenOf digits) with
  | error other =>
      obtain ⟨failure, rfl⟩ := graph_fails config archetypes _ _ other found
      rw [ofDescription, found] at failed
      cases failed
      simp [Cause.stage]
  | ok graph =>
      rcases described_fails config archetypes data digits long hex graph found cause failed with
        ⟨failure, rfl, _⟩ | ⟨issues, rfl⟩
      · simp [Cause.stage]
      · simp [Cause.stage]

theorem refused_metadata (targetNamespace exporter exporterVersion : String) (documented : Bool)
    (failure : Document.Failure) :
    Refused (metadata (.ofTexts targetNamespace exporter exporterVersion documented)) failure ↔
      failure = .forbiddenCharacter ∧
        ∃ value ∈ [targetNamespace, exporter, exporterVersion], Xml.hasForbidden value = true :=
  Document.refused_texts_iff [targetNamespace, exporter, exporterVersion] failure

/-- Reading the input never ends a compilation, and no graph that was built fails to be laid out.
What is laid out is written, unless one of the three texts that a document says about itself holds a
character that no document may hold. -/
theorem only_metadata_refused (config : Config) (archetypes : Archetypes) (data : Json)
    (digits : String) (long : digits.length = 32) (hex : ∀ c ∈ digits.toList, isHex c) :
    (∀ failure, compile config archetypes data digits = .error failure →
      failure.stage ≠ .input ∧ failure.stage ≠ .layout) ∧
    ∀ graph, graphOf config archetypes (descriptionOf data) (Identifier.tokenOf digits) = .ok graph →
      (∀ targetNamespace exporter exporterVersion documented,
        config.document = .ofTexts targetNamespace exporter exporterVersion documented →
          ∀ failure, compile config archetypes data digits = .error (.later (.document failure)) ↔
            failure = .forbiddenCharacter ∧
              ∃ value ∈ [targetNamespace, exporter, exporterVersion],
                Xml.hasForbidden value = true) ∧
      ∀ (tables : Table String (RoleTable Float)) (requested : Strategy),
        ∃ diagram, Diagram.ofGraph tables requested graph = .ok diagram ∧
          ∀ targetNamespace exporter exporterVersion documented failure,
            Document.write (.ofTexts targetNamespace exporter exporterVersion documented)
                (subjectOf (descriptionOf data) (Identifier.tokenOf digits) graph diagram) =
                  .error failure ↔
              failure = .forbiddenCharacter ∧
                ∃ value ∈ [targetNamespace, exporter, exporterVersion],
                  Xml.hasForbidden value = true := by
  refine ⟨?_, ?_⟩
  · intro failure failed
    obtain ⟨cause, rfl⟩ := failed_later config archetypes data digits failure failed
    rw [compile_described, Each.renamed_error] at failed
    obtain ⟨other, failed, same⟩ := failed
    cases same
    exact described_stage config archetypes data digits long hex cause failed
  · intro graph found
    constructor
    · intro targetNamespace exporter exporterVersion documented chosen failure
      rw [compile_refused_iff config archetypes data digits long hex graph found, chosen]
      exact refused_metadata targetNamespace exporter exporterVersion documented failure
    · intro tables requested
      obtain ⟨diagram, drawn, written⟩ :=
        drawn_and_written config archetypes data digits long hex graph found tables requested
      refine ⟨diagram, drawn, ?_⟩
      intro targetNamespace exporter exporterVersion documented failure
      rw [written]
      exact refused_metadata targetNamespace exporter exporterVersion documented failure

/-- A text is written, checked and sent back until it is good. -/
def loopArchetype : Archetype Float where
  name := "writing"
  accepts _ := true
  recipe := [
    .ok (.node .startEvent "Start" "StartEvent" none "" ""), .ok (.task "Write" "write" none),
    .ok (.node .exclusiveGateway "Good?" "check" none "" ""),
    .ok (.node .endEvent "End" "EndEvent" none "" ""),
    .ok (.chain ["node_1", "node_2", "node_3"]),
    .ok (.connect "node_3" "node_2" (some "no")), .ok (.connect "node_3" "node_4" (some "yes"))]

def markedConfig : Config where
  document := { exporter := .text "\x01" }

theorem loop_archetype_only_metadata_refused :
    zeros.length = 32 ∧ (∀ c ∈ zeros.toList, isHex c) ∧
      compile markedConfig [loopArchetype] (.record []) zeros =
        .error (.later (.document .forbiddenCharacter)) ∧
      ∃ graph, graphOf markedConfig [loopArchetype] (descriptionOf (.record []))
          (Identifier.tokenOf zeros) = .ok graph ∧
        ∀ (tables : Table String (RoleTable Float)) (requested : Strategy),
          ∃ diagram, Diagram.ofGraph tables requested graph = .ok diagram := by
  have long : zeros.length = 32 := by decide
  have hex : ∀ c ∈ zeros.toList, isHex c := List.all_eq_true.mp (by decide)
  obtain ⟨graph, found⟩ : ∃ graph, graphOf markedConfig [loopArchetype]
      (descriptionOf (.record [])) (Identifier.tokenOf zeros) = .ok graph :=
    Each.ok_exists _ (by decide +kernel)
  obtain ⟨fails, drawn⟩ :=
    (only_metadata_refused markedConfig [loopArchetype] (.record []) zeros long hex).2 graph found
  have refused := fails "http://bpmn.io/schema/bpmn" "\x01" "1.0" true rfl .forbiddenCharacter
  refine ⟨long, hex, refused.mpr ⟨rfl, "\x01", by simp, by decide⟩, graph, found, ?_⟩
  intro tables requested
  obtain ⟨diagram, laid, _⟩ := drawn tables requested
  exact ⟨diagram, laid⟩

end Compilation

end ProcessDiagram
