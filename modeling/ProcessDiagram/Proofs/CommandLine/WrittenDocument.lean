import ProcessDiagram.CommandLine.Execution
import ProcessDiagram.Proofs.CommandLine.Folder
import ProcessDiagram.Proofs.Compiler.Failure
import ProcessDiagram.Proofs.Text.Utf8

set_option autoImplicit false

namespace ProcessDiagram.CommandLine

variable {surroundings : Surroundings} {options : CompileOptions} {outcome : Outcome}
  {path digits : String}

def Holds (surroundings : Surroundings) (path : String) (octets : Octets) : Prop :=
  if path = "-" then octets = surroundings.standardInput
  else surroundings.look path = .file octets

def Supplies (surroundings : Surroundings) (path : String) (fields : Table String Json) : Prop :=
  ∃ octets input, Holds surroundings path octets ∧ Text.Utf8.decode octets = .ok input ∧
    Json.readAll (Text.unifyLineEnds input) = .ok (.record fields)

theorem path_failure_fails (place : Place) (failed : pathFailure path place = .ok outcome) :
    outcome.exitCode ≠ 0 := by
  cases place with
  | forbiddenPath =>
      cases failed
      exact Nat.one_ne_zero
  | _ => cases failed

theorem input_read (use : Octets → Result) (read : readInput surroundings path use = .ok outcome)
    (success : outcome.exitCode = 0) :
    ∃ octets, Holds surroundings path octets ∧ use octets = .ok outcome := by
  rw [readInput] at read
  by_cases standard : path = "-"
  · rw [if_pos standard] at read
    exact ⟨surroundings.standardInput, by rw [Holds, if_pos standard], read⟩
  · rw [if_neg standard] at read
    cases found : surroundings.look path with
    | file content =>
        rw [found] at read
        exact ⟨content, by rw [Holds, if_neg standard, found], read⟩
    | _ =>
        rw [found] at read
        exact absurd success (path_failure_fails _ read)

theorem output_checked (use : Result) (checked : checkOutput surroundings options use = .ok outcome)
    (success : outcome.exitCode = 0) : use = .ok outcome := by
  rw [checkOutput] at checked
  cases given : options.output with
  | none =>
      rw [given] at checked
      exact checked
  | some path =>
      rw [given] at checked
      dsimp only at checked
      split at checked
      · exact absurd success (path_failure_fails _ checked)
      · exact absurd success (path_failure_fails _ checked)
      · exact checked

theorem text_compiled (input : List Char)
    (success : (compileText surroundings options digits input).exitCode = 0) :
    ∃ fields compilation, Json.readAll (Text.unifyLineEnds input) = .ok (.record fields) ∧
      Compilation.compile (configOf options surroundings.environment)
        Compilation.defaultArchetypes (.record fields) digits = .ok compilation ∧
      compileText surroundings options digits input =
        deliver surroundings options compilation := by
  rw [compileText] at success ⊢
  cases read : Json.readAll (Text.unifyLineEnds input) with
  | error failure =>
      rw [read] at success
      cases failure <;> cases success
  | ok data =>
      rw [read] at success
      cases data with
      | record fields =>
          cases compiled : Compilation.compile (configOf options surroundings.environment)
            Compilation.defaultArchetypes (.record fields) digits with
          | error cause =>
              simp only [compiled] at success
              cases success
          | ok compilation =>
              exact ⟨fields, compilation, rfl, compiled, by simp only [compiled]⟩
      | _ => cases success

theorem compile_delivered (run : runCompile surroundings options digits = .ok outcome)
    (success : outcome.exitCode = 0) :
    ∃ fields compilation, Supplies surroundings options.input fields ∧
      Compilation.compile (configOf options surroundings.environment)
        Compilation.defaultArchetypes (.record fields) digits = .ok compilation ∧
      outcome = deliver surroundings options compilation := by
  have checked := output_checked _ run success
  obtain ⟨octets, supplied, read⟩ := input_read _ checked success
  cases decoded : Text.Utf8.decode octets with
  | error fault =>
      rw [decoded] at read
      cases read
      cases success
  | ok input =>
      rw [decoded] at read
      cases read
      obtain ⟨fields, compilation, object, compiled, delivered⟩ := text_compiled input success
      exact ⟨fields, compilation, ⟨octets, input, supplied, decoded, object⟩, compiled, delivered⟩

theorem output_passed (use : Result)
    (isOpen : ∀ path, options.output = some path → (surroundings.look path).IsOpen) :
    checkOutput surroundings options use = use := by
  rw [checkOutput]
  cases given : options.output with
  | none => rfl
  | some path =>
      have place := isOpen path given
      dsimp only
      cases found : surroundings.look path with
      | directory | forbiddenPath =>
          rw [found] at place
          exact place.elim
      | _ => rfl

theorem input_supplied (octets : Octets) (use : Octets → Result)
    (held : Holds surroundings path octets) : readInput surroundings path use = use octets := by
  rw [Holds] at held
  rw [readInput]
  by_cases standard : path = "-"
  · rw [if_pos standard] at held ⊢
    rw [held]
  · rw [if_neg standard] at held ⊢
    rw [held]

theorem delivered_of_compiled (fields : Table String Json) (compilation : Compilation)
    (isOpen : ∀ path, options.output = some path → (surroundings.look path).IsOpen)
    (supplied : Supplies surroundings options.input fields)
    (compiled : Compilation.compile (configOf options surroundings.environment)
      Compilation.defaultArchetypes (.record fields) digits = .ok compilation) :
    runCompile surroundings options digits = .ok (deliver surroundings options compilation) := by
  obtain ⟨octets, input, held, decoded, object⟩ := supplied
  rw [runCompile, output_passed _ isOpen, input_supplied octets _ held]
  simp only [decoded, compileText, object, compiled]

theorem open_written (label text : String) (isOpen : (surroundings.look path).IsOpen) :
    (writeTo surroundings path label text).exitCode = 0 ∧
      (writeTo surroundings path label text).written = some (path, text) := by
  rw [writeTo]
  cases place : surroundings.look path with
  | file content => exact ⟨rfl, rfl⟩
  | vacant => exact ⟨rfl, rfl⟩
  | _ =>
      rw [place] at isOpen
      exact isOpen.elim

theorem written_open (label text : String)
    (success : (writeTo surroundings path label text).exitCode = 0) :
    (surroundings.look path).IsOpen := by
  rw [writeTo] at success
  cases place : surroundings.look path with
  | file content => trivial
  | vacant => trivial
  | _ =>
      rw [place] at success
      cases success

theorem document_delivered (compilation : Compilation) (given : options.output = some path)
    (named : path ≠ "") (plain : options.jsonOutput = false) :
    deliver surroundings options compilation =
      writeTo surroundings path "BPMN XML" compilation.xml := by
  simp [deliver, plain, given, Option.filter, named]

def shown (path : String) (report : Report) : ReportFormat → String
  | .text => reportText path report
  | .json => (fileReportJson path report).pretty ++ "\n"

def Confirms (surroundings : Surroundings) (path : String) (report : Report) : Prop :=
  ∀ digits arguments format, Command.read arguments = .ok (.validate path format) →
    run surroundings digits arguments = .ok { exitCode := 0, output := shown path report format }

theorem clean_text_confirmed (text : String) (clean : Xml.Clean text.toList)
    (valid : (Validation.validate text).isValid = true)
    (held : surroundings.look path = .file text.toUTF8.toList) :
    Confirms surroundings path (Validation.validate text) := by
  intro digits arguments format asked
  have lineEnds : Text.unifyLineEnds text.toList = text.toList :=
    Xml.unify_line_ends_free _ fun c member => (clean c member).2
  have checked : reportOn path format text.toList =
      { exitCode := 0, output := shown path (Validation.validate text) format } := by
    simp only [reportOn, lineEnds, String.ofList_toList, valid, if_true]
    cases format <;> rfl
  rw [run, asked]
  change runValidate surroundings path format = _
  rw [runValidate, held]
  dsimp only
  rw [Text.Utf8.decode_text, ← checked]

theorem run_compile (arguments : List String)
    (asked : Command.read arguments = .ok (.compile options)) :
    run surroundings digits arguments = runCompile surroundings options digits := by
  rw [run, asked]
  rfl

theorem run_in_ok (folder after : Folder) (environment : Config.Environment)
    (standardInput : Octets) (arguments : List String)
    (ran : runIn folder environment standardInput digits arguments = .ok (outcome, after)) :
    run ⟨environment, standardInput, folder.look⟩ digits arguments = .ok outcome ∧
      ∀ path text, outcome.written = some (path, text) →
        after = folder.put path text.toUTF8.toList := by
  obtain ⟨same, executed, kept⟩ := Each.bind_ok _ _ _ ran
  cases written : same.written with
  | none =>
      rw [written] at kept
      cases kept
      exact ⟨executed, fun _ _ found => by rw [written] at found; cases found⟩
  | some file =>
      rw [written] at kept
      cases kept
      refine ⟨executed, fun path text found => ?_⟩
      rw [written] at found
      cases found
      rfl

theorem run_in_written (folder : Folder) (environment : Config.Environment)
    (standardInput : Octets) (arguments : List String) (text : String)
    (executed : run ⟨environment, standardInput, folder.look⟩ digits arguments = .ok outcome)
    (written : outcome.written = some (path, text)) :
    runIn folder environment standardInput digits arguments =
      .ok (outcome, folder.put path text.toUTF8.toList) := by
  simp only [runIn, executed, bind, Except.bind, written]
  rfl

/-- A document that was compiled into a file passes the check of that file, in the folder and wherever else
the file is kept, with the report of its compilation. -/
theorem written_document_confirmed (folder after : Folder) (environment : Config.Environment)
    (standardInput : Octets) (arguments : List String)
    (asked : Command.read arguments = .ok (.compile options))
    (given : options.output = some path) (named : path ≠ "")
    (plain : options.jsonOutput = false)
    (checks : (configOf options environment).validateOutput = true)
    (ran : runIn folder environment standardInput digits arguments = .ok (outcome, after))
    (success : outcome.exitCode = 0) :
    ∃ fields compilation report,
      Supplies ⟨environment, standardInput, folder.look⟩ options.input fields ∧
      Compilation.compile (configOf options environment) Compilation.defaultArchetypes
        (.record fields) digits = .ok compilation ∧
      compilation.report = some report ∧
      outcome.written = some (path, compilation.xml) ∧
      (∀ later : Surroundings, later.look path = .file compilation.xml.toUTF8.toList →
        Confirms later path report) ∧
      ∀ names, Folder.namesOf? path = some names → ∀ laterEnvironment laterInput,
        Confirms ⟨laterEnvironment, laterInput, after.look⟩ path report := by
  obtain ⟨executed, put⟩ := run_in_ok folder after environment standardInput arguments ran
  rw [run_compile arguments asked] at executed
  obtain ⟨fields, compilation, supplied, compiled, rfl⟩ := compile_delivered executed success
  rw [document_delivered compilation given named plain] at success put ⊢
  have isOpen := written_open _ _ success
  obtain ⟨_, written⟩ := open_written "BPMN XML" compilation.xml isOpen
  obtain ⟨_, ⟨subject, _, document⟩, reported⟩ :=
    Compilation.compile_runs _ _ _ _ compilation compiled
  obtain ⟨report, valid⟩ := Compilation.report_passed _ checks _ _ reported
  have clean := Document.written_clean compilation.xml document
  refine ⟨fields, compilation, _, supplied, compiled, report, written, ?_, ?_⟩
  · intro later held
    exact clean_text_confirmed compilation.xml clean valid held
  · intro names inside laterEnvironment laterInput
    refine clean_text_confirmed compilation.xml clean valid ?_
    rw [put path compilation.xml written]
    exact Folder.look_put path _ inside isOpen

theorem check_asked (path : String) (format : ReportFormat) :
    Command.read ["validate", "--format", format.name, "--", path] =
      .ok (.validate path format) := by
  cases format <;> rfl

/-- Labels with characters that are written by their names or numbers, and an exporter with others. -/
def markedFields : Table String Json :=
  [("name", .text "Q & A"), ("steps", .list [.record [("name", .text "Ask\r\n<again>")]])]

def markedObject : String :=
  "\x7b\"name\": \"Q & A\", \"steps\": [\x7b\"name\": \"Ask\\r\\n<again>\"\x7d]\x7d"

def markedEnvironment : Config.Environment :=
  [("BPMN_MAPGEN_EXPORTER", "R & D <drafts>")]

def toFile : CompileOptions where
  output := some "diagram.bpmn"

theorem marked_fields_compile :
    ∃ compilation, Compilation.compile (configOf toFile markedEnvironment)
      Compilation.defaultArchetypes (.record markedFields) Compilation.zeros = .ok compilation := by
  have hex : ∀ c ∈ Compilation.zeros.toList, Identifier.isHex c :=
    List.all_eq_true.mp (by decide)
  have document : (configOf toFile markedEnvironment).document =
      .ofTexts "http://bpmn.io/schema/bpmn" "R & D <drafts>" "1.0" true := by
    decide
  refine Compilation.generic_compiles _ _ _ Compilation.zeros (by decide) hex rfl ?_
    (by decide +kernel)
  rw [document]
  exact (Document.worded_texts [_, _, _]).mpr (by decide)

def pipedObject : Surroundings where
  environment := markedEnvironment
  standardInput := markedObject.toUTF8.toList
  look := ({} : Folder).look

theorem marked_object_read :
    Json.readAll (Text.unifyLineEnds markedObject.toList) = .ok (.record markedFields) := by
  cbv

theorem marked_object_delivered :
    ∃ compilation : Compilation, runCompile pipedObject toFile Compilation.zeros =
      .ok (writeTo pipedObject "diagram.bpmn" "BPMN XML" compilation.xml) := by
  obtain ⟨compilation, compiled⟩ := marked_fields_compile
  have isOpen : ∀ path, toFile.output = some path → (pipedObject.look path).IsOpen := by
    intro path given
    cases given
    trivial
  have supplied : Supplies pipedObject toFile.input markedFields :=
    ⟨_, _, rfl, Text.Utf8.decode_text markedObject, marked_object_read⟩
  have delivered := delivered_of_compiled markedFields compilation isOpen supplied compiled
  rw [document_delivered compilation rfl (by decide) rfl] at delivered
  exact ⟨compilation, delivered⟩

theorem marked_object_confirmed :
    ∃ outcome after report,
      runIn {} markedEnvironment markedObject.toUTF8.toList Compilation.zeros
          ["compile", "-o", "diagram.bpmn"] = .ok (outcome, after) ∧
      outcome.exitCode = 0 ∧
      run ⟨[], [], after.look⟩ Compilation.zeros
          ["validate", "--format", "json", "--", "diagram.bpmn"] =
        .ok { exitCode := 0, output := (fileReportJson "diagram.bpmn" report).pretty ++ "\n" } := by
  obtain ⟨compilation, delivered⟩ := marked_object_delivered
  have asked : Command.read ["compile", "-o", "diagram.bpmn"] = .ok (.compile toFile) := by decide
  have isOpen : (pipedObject.look "diagram.bpmn").IsOpen := trivial
  obtain ⟨success, written⟩ := open_written "BPMN XML" compilation.xml isOpen
  rw [← run_compile _ asked] at delivered
  have ran := run_in_written {} markedEnvironment markedObject.toUTF8.toList _ compilation.xml
    delivered written
  obtain ⟨_, _, report, _, _, _, _, _, confirmed⟩ :=
    written_document_confirmed {} _ markedEnvironment _ _ asked rfl (by decide) rfl (by decide) ran
      success
  exact ⟨_, _, report, ran, success, confirmed ["diagram.bpmn"] (by decide) [] [] _ _ .json
    (check_asked "diagram.bpmn" .json)⟩

end ProcessDiagram.CommandLine
