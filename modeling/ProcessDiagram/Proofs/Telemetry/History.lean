import ProcessDiagram.Proofs.Each
import ProcessDiagram.Telemetry.Monitor

set_option autoImplicit false

namespace ProcessDiagram.Telemetry

inductive Observation where
  | start (options : MonitorOptions)
  | reset
  | log (severity : Severity) (message : String)
  | logFailure (severity : Severity) (message : String)
  | emit (severity : Severity) (message : String) (extra : List (String × Json))
  | metric (name : String) (value : Json) (attributes : Table String Json)
  | time (name : String) (seconds : Float)
  | openSpan (name : String) (attributes : Table String Json)
  | collect

-- An observation that fails changes nothing, but the time was noted before its metric failed.
def observe (state : Telemetry) : Observation → Telemetry
  | .start options => (state.start options).toOption.getD state
  | .reset => state.reset
  | .log severity message => state.log severity message
  | .logFailure severity message => state.logFailure severity message
  | .emit severity message extra => state.emit severity message extra
  | .metric name value attributes => (state.recordMetric name value attributes).toOption.getD state
  | .time name seconds =>
      (state.recordTime name seconds).toOption.getD (state.noteTime name seconds)
  | .openSpan name attributes => (state.openSpan name attributes).2
  | .collect => state.collect.toOption.getD state

def observeAll (state : Telemetry) (observations : List Observation) : Telemetry :=
  observations.foldl observe state

def Watched (options : MonitorOptions) (threshold : Int) (state : Telemetry) : Prop :=
  ∃ monitor, state.monitor = some monitor ∧ monitor.options = options ∧
    monitor.threshold = threshold

-- A record of a severity that reaches the threshold, in the form that the options ask for.
def Admitted (options : MonitorOptions) (threshold : Int) (record : Record) : Prop :=
  record.asData = options.jsonLogs ∧
    ∃ severity : Severity, record.level = severity.name ∧ threshold ≤ severity.rank

-- The monitor stays, and its records are appended.
structure Kept (options : MonitorOptions) (threshold : Int) (before after : Telemetry) : Prop where
  watched : Watched options threshold after
  records : ∃ added, after.records = before.records ++ added ∧
    ∀ record ∈ added, Admitted options threshold record

theorem written_form (record found : Record) (written : record.written? = some found) :
    found.asData = record.asData ∧ found.level = record.level := by
  rw [Record.written?] at written
  split at written
  · split at written
    · cases written
      exact ⟨rfl, rfl⟩
    · cases written
  · cases written
    exact ⟨rfl, rfl⟩

section Watched

variable {options : MonitorOptions} {threshold : Int}

theorem Kept.refl {state : Telemetry} (watched : Watched options threshold state) :
    Kept options threshold state state :=
  ⟨watched, [], (List.append_nil _).symm, fun _ member => absurd member List.not_mem_nil⟩

theorem Kept.trans {first second third : Telemetry} (front : Kept options threshold first second)
    (back : Kept options threshold second third) : Kept options threshold first third := by
  obtain ⟨_, added, appended, admitted⟩ := front
  obtain ⟨watched, more, behind, others⟩ := back
  refine ⟨watched, added ++ more, ?_, ?_⟩
  · rw [behind, appended, List.append_assoc]
  · intro record member
    rcases List.mem_append.mp member with old | new
    · exact admitted record old
    · exact others record new

theorem Kept.measured {state : Telemetry} (monitor : Monitor) (same : monitor.options = options)
    (level : monitor.threshold = threshold) :
    Kept options threshold state { state with monitor := some monitor } :=
  ⟨⟨monitor, rfl, same, level⟩, [], (List.append_nil _).symm,
    fun _ member => absurd member List.not_mem_nil⟩

variable {state : Telemetry} (watched : Watched options threshold state)

include watched

theorem emit_kept (severity : Severity) (message : String) (extra : List (String × Json)) :
    Kept options threshold state (state.emit severity message extra) := by
  obtain ⟨monitor, found, rfl, rfl⟩ := watched
  rw [emit, found]
  dsimp only
  split
  · rename_i reached
    refine ⟨⟨monitor, rfl, rfl, rfl⟩, _, rfl, ?_⟩
    intro record member
    obtain ⟨form, level⟩ := written_form _ record (Option.mem_toList.mp member)
    exact ⟨form, severity, level, reached⟩
  · exact .refl ⟨monitor, found, rfl, rfl⟩

theorem note_kept (level : LogLevel) (message : String) :
    Kept options threshold state (state.note level message) :=
  emit_kept watched level.severity message []

theorem note_if_kept (told : Bool) (message : String) :
    Kept options threshold state (if told then state.note .debug message else state) := by
  cases told with
  | true => exact note_kept watched .debug message
  | false => exact .refl watched

theorem log_kept (severity : Severity) (message : String) :
    Kept options threshold state (state.log severity message) := by
  rw [log]
  split
  · exact emit_kept watched severity message []
  · exact .refl watched

theorem log_failure_kept (severity : Severity) (message : String) :
    Kept options threshold state (state.logFailure severity message) := by
  rw [logFailure]
  split
  · split
    · exact .refl watched
    · exact log_kept watched severity message
  · exact .refl watched

omit watched in
theorem fold_kept {Item : Type} (step : Telemetry → Item → Telemetry)
    (each : ∀ state item, Watched options threshold state →
      Kept options threshold state (step state item))
    (items : List Item) (state : Telemetry) (watched : Watched options threshold state) :
    Kept options threshold state (items.foldl step state) := by
  induction items generalizing state with
  | nil => exact .refl watched
  | cons item rest ih =>
      have first := each state item watched
      exact first.trans (ih _ first.watched)

theorem dropped_kept (count : Nat) : Kept options threshold state (state.noteDropped count) :=
  fold_kept _ (fun _ _ watched => note_kept watched .warning _) _ state watched

omit watched in
theorem add_to_kept (monitor after : Monitor) (counted : Bool) (attributes : Attributes)
    (amount : Amount) (added : addTo monitor counted attributes amount = .ok after) :
    after.options = monitor.options ∧ after.threshold = monitor.threshold := by
  cases counted with
  | true =>
      obtain ⟨counter, _, rest⟩ := Each.bind_ok _ _ _ added
      cases rest
      exact ⟨rfl, rfl⟩
  | false =>
      obtain ⟨histogram, _, rest⟩ := Each.bind_ok _ _ _ added
      cases rest
      exact ⟨rfl, rfl⟩

theorem measure_kept (name : String) (amount : Amount) (attributes : Table String Json)
    (after : Telemetry) (measured : state.measure name amount attributes = .ok after) :
    Kept options threshold state after := by
  rw [measure] at measured
  split at measured
  · cases measured
    exact .refl watched
  · rename_i monitor found
    obtain ⟨same, known, rfl, rfl⟩ := watched
    obtain rfl : monitor = same := Option.some.inj (found.symm.trans known)
    dsimp only at measured
    split at measured
    · cases measured
    split at measured
    · cases measured
      exact note_kept ⟨monitor, found, rfl, rfl⟩ _ _
    split at measured
    · cases measured
      exact note_kept ⟨monitor, found, rfl, rfl⟩ _ _
    · obtain ⟨later, added, rest⟩ := Each.bind_ok _ _ _ measured
      cases rest
      obtain ⟨sameOptions, sameLevel⟩ := add_to_kept monitor later _ _ _ added
      have changed : Kept monitor.options monitor.threshold state
          { state with monitor := some later } := .measured later sameOptions sameLevel
      exact changed.trans (dropped_kept changed.watched _)

theorem metric_kept (name : String) (value : Json) (attributes : Table String Json)
    (after : Telemetry) (recorded : state.recordMetric name value attributes = .ok after) :
    Kept options threshold state after := by
  rw [recordMetric] at recorded
  split at recorded
  · obtain ⟨amount, _, recorded⟩ := Each.bind_ok _ _ _ recorded
    obtain ⟨between, measured, rest⟩ := Each.bind_ok _ _ _ recorded
    cases rest
    have first := measure_kept watched name amount _ between measured
    exact first.trans (note_kept first.watched .debug _)
  · cases recorded
    exact note_kept watched .debug _

theorem time_kept (name : String) (seconds : Float) :
    Kept options threshold state
      ((state.recordTime name seconds).toOption.getD (state.noteTime name seconds)) := by
  have noted : Kept options threshold state (state.noteTime name seconds) :=
    note_kept watched .debug _
  cases recorded : state.recordTime name seconds with
  | error failure => exact noted
  | ok after => exact noted.trans (metric_kept noted.watched _ _ _ after recorded)

theorem span_kept (name : String) (attributes : Table String Json) :
    Kept options threshold state (state.openSpan name attributes).2 := by
  rw [openSpan]
  split
  · exact .refl watched
  · split
    · exact .refl watched
    · refine fold_kept _ ?_ attributes state watched
      intro state entry watched
      rw [noteAttribute]
      split
      · exact note_kept watched .warning _
      · exact dropped_kept watched _

theorem collect_kept (after : Telemetry) (collected : state.collect = .ok after) :
    Kept options threshold state after := by
  obtain ⟨monitor, found, rfl, rfl⟩ := watched
  rw [collect, found] at collected
  obtain ⟨counter, _, collected⟩ := Each.bind_ok _ _ _ collected
  obtain ⟨histogram, _, collected⟩ := Each.bind_ok _ _ _ collected
  cases collected
  exact .measured _ rfl rfl

theorem start_again (other : MonitorOptions) : state.start other = .ok state := by
  obtain ⟨monitor, found, _⟩ := watched
  rw [start, found]

theorem observed_kept (observation : Observation) (running : observation ≠ .reset) :
    Kept options threshold state (state.observe observation) := by
  have unlessFailed : ∀ {Failure : Type} (result : Except Failure Telemetry),
      (∀ after, result = .ok after → Kept options threshold state after) →
        Kept options threshold state (result.toOption.getD state) := by
    intro Failure result kept
    cases result with
    | error failure => exact .refl watched
    | ok after => exact kept after rfl
  cases observation with
  | start other =>
      rw [observe, start_again watched other]
      exact .refl watched
  | reset => exact absurd rfl running
  | log severity message => exact log_kept watched severity message
  | logFailure severity message => exact log_failure_kept watched severity message
  | emit severity message extra => exact emit_kept watched severity message extra
  | metric name value attributes =>
      exact unlessFailed _ (metric_kept watched name value attributes)
  | time name seconds => exact time_kept watched name seconds
  | openSpan name attributes => exact span_kept watched name attributes
  | collect => exact unlessFailed _ (collect_kept watched)

end Watched

/-- While a monitor is not reset it stays the same, and a run of observations only appends records
that its threshold lets through. -/
theorem watched_run (options : MonitorOptions) (threshold : Int) (observations : List Observation)
    (running : .reset ∉ observations) (state : Telemetry)
    (watched : Watched options threshold state) :
    Kept options threshold state (state.observeAll observations) := by
  induction observations generalizing state with
  | nil => exact .refl watched
  | cons observation rest ih =>
      obtain ⟨other, others⟩ := not_or.mp (List.mem_cons.not.mp running)
      have first := observed_kept watched observation (Ne.symm other)
      exact first.trans (ih others _ first.watched)

theorem started_kept (state after : Telemetry) (options : MonitorOptions)
    (unwatched : state.monitor = none) (started : state.start options = .ok after) :
    ∃ severity, Severity.named? options.levelName = some severity ∧
      Kept options severity.rank state after := by
  rw [start, unwatched] at started
  dsimp only at started
  split at started
  · cases started
  · rename_i severity named
    cases started
    refine ⟨severity, named, ?_⟩
    have begun : Kept options severity.rank state
        { state with monitor := some { options, threshold := severity.rank } } :=
      .measured _ rfl rfl
    have traced := begun.trans (note_if_kept begun.watched options.enableTracing
      "OpenTelemetry tracing initialized")
    have metered := traced.trans (note_if_kept traced.watched options.enableMetrics
      "OpenTelemetry metrics initialized")
    exact metered.trans (note_kept metered.watched .info _)

theorem unwatched_observed (state : Telemetry) (unwatched : state.monitor = none)
    (observation : Observation) (idle : ∀ options, observation ≠ .start options) :
    state.observe observation = state := by
  have unseen : ∀ severity message extra, state.emit severity message extra = state := by
    intro severity message extra
    rw [emit, unwatched]
  have metric : ∀ name value attributes,
      state.recordMetric name value attributes = .ok state := by
    intro name value attributes
    have unmeasured : state.measures = false := by rw [measures, unwatched]; rfl
    rw [recordMetric, unmeasured]
    exact congrArg Except.ok (unseen _ _ _)
  cases observation with
  | start options => exact absurd rfl (idle options)
  | reset =>
      obtain ⟨monitor, records⟩ := state
      cases unwatched
      rfl
  | log severity message =>
      rw [observe, log, unseen, ite_self]
  | logFailure severity message => rw [observe, logFailure, unwatched]
  | emit severity message extra => exact unseen severity message extra
  | metric name value attributes =>
      rw [observe, metric]
      rfl
  | time name seconds =>
      have noted : state.noteTime name seconds = state := unseen _ _ _
      rw [observe, recordTime, noted, metric]
      rfl
  | openSpan name attributes => rw [observe, openSpan, unwatched]
  | collect =>
      rw [observe, collect, unwatched]
      rfl

/-- Without a monitor nothing is recorded until one is started. -/
theorem unwatched_run (observations : List Observation)
    (idle : ∀ options, .start options ∉ observations) (state : Telemetry)
    (unwatched : state.monitor = none) : state.observeAll observations = state := by
  induction observations with
  | nil => rfl
  | cons observation rest ih =>
      have first := unwatched_observed state unwatched observation
        fun options same => idle options (same ▸ List.mem_cons_self)
      rw [observeAll, List.foldl_cons, first]
      exact ih fun options member => idle options (List.mem_cons_of_mem _ member)

theorem observed_appended (state : Telemetry) (observation : Observation) :
    state.records <+: (state.observe observation).records := by
  cases current : state.monitor with
  | some monitor =>
      by_cases last : observation = .reset
      · rw [last]
        exact List.prefix_rfl
      · obtain ⟨added, appended, _⟩ :=
          (observed_kept ⟨monitor, current, rfl, rfl⟩ observation last).records
        exact ⟨added, appended.symm⟩
  | none =>
      by_cases begins : ∃ options, observation = .start options
      · obtain ⟨options, rfl⟩ := begins
        cases started : state.start options with
        | error failure =>
            rw [observe, started]
            exact List.prefix_rfl
        | ok after =>
            obtain ⟨_, _, kept⟩ := started_kept state after options current started
            obtain ⟨added, appended, _⟩ := kept.records
            rw [observe, started]
            exact ⟨added, appended.symm⟩
      · push Not at begins
        have unseen := unwatched_observed state current observation begins
        exact unseen.symm ▸ List.prefix_rfl

/-- Nothing that was recorded is lost or changed by what is observed later. -/
theorem run_appended (observations : List Observation) (state : Telemetry) :
    state.records <+: (state.observeAll observations).records := by
  induction observations generalizing state with
  | nil => exact List.prefix_rfl
  | cons observation rest ih => exact (observed_appended state observation).trans (ih _)

end ProcessDiagram.Telemetry
