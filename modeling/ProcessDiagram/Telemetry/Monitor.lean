import ProcessDiagram.Json.Printer
import ProcessDiagram.Json.Reader
import ProcessDiagram.Telemetry.Markup
import ProcessDiagram.Telemetry.Measure
import ProcessDiagram.Telemetry.Severity

set_option autoImplicit false

namespace ProcessDiagram

structure Record where
  level : String
  message : String
  extra : List (String × Json) := []
  asData : Bool

namespace Record

def keys (record : Record) : List String :=
  (if record.extra.isEmpty then [] else ["extra"]) ++
    ["function", "level", "line", "logger", "message", "timestamp"]

def data (record : Record) : Json :=
  .record (("message", .text record.message) ::
    if record.extra.isEmpty then [] else [("extra", .record record.extra)])

-- The record as it is found when it is read again. A line of data loses its markup, and one whose
-- markup is not plain is not written at all; a line of text is written as it is.
def written? (record : Record) : Option Record :=
  if record.asData then
    match (Markup.plain? record.data.compact).map Json.read with
    | some (.ok data) =>
        some { record with
          message := ((data.field "message").text?).getD ""
          extra := (data.field "extra").fields }
    | _ => none
  else some record

end Record

structure MonitorOptions where
  serviceName : Json := .text "bpmn-mapgen"
  level : LogLevel ⊕ String := .inl .info
  jsonLogs : Bool := false
  enableTracing : Bool := true
  enableMetrics : Bool := true

namespace MonitorOptions

def levelName (options : MonitorOptions) : String :=
  match options.level with
  | .inl level => level.name
  | .inr name => name

def shownLevel (options : MonitorOptions) : String :=
  match options.level with
  | .inl level => "LogLevel." ++ level.name
  | .inr name => name

end MonitorOptions

structure Monitor where
  options : MonitorOptions
  threshold : Int
  counter : Measure := []
  histogram : Measure := []

structure Telemetry where
  monitor : Option Monitor := none
  records : List Record := []

structure Span where
  name : String
  attributes : List (String × String)

namespace Telemetry

def emit (state : Telemetry) (severity : Severity) (message : String)
    (extra : List (String × Json) := []) : Telemetry :=
  match state.monitor with
  | none => state
  | some monitor =>
      if monitor.threshold ≤ severity.rank then
        let record : Record := ⟨severity.name, message, extra, monitor.options.jsonLogs⟩
        { state with records := state.records ++ record.written?.toList }
      else state

def log (state : Telemetry) (severity : Severity) (message : String) : Telemetry :=
  if 0 < severity.rank then state.emit severity message else state

-- A message with a failure attached cannot be written as data and is lost there.
def logFailure (state : Telemetry) (severity : Severity) (message : String) : Telemetry :=
  match state.monitor with
  | some monitor => if monitor.options.jsonLogs then state else state.log severity message
  | none => state

def note (state : Telemetry) (level : LogLevel) (message : String) : Telemetry :=
  state.emit level.severity message

def takeRecords (state : Telemetry) : List Record × Telemetry :=
  (state.records, { state with records := [] })

structure UnknownLevel where
  name : String

def UnknownLevel.message (failure : UnknownLevel) : String :=
  "Level '" ++ failure.name ++ "' does not exist"

def start (state : Telemetry) (options : MonitorOptions) : Except UnknownLevel Telemetry :=
  match state.monitor with
  | some _ => .ok state
  | none =>
      match Severity.named? options.levelName with
      | none => .error ⟨options.levelName⟩
      | some severity =>
          let state := { state with monitor := some { options, threshold := severity.rank } }
          let state :=
            if options.enableTracing then state.note .debug "OpenTelemetry tracing initialized"
            else state
          let state :=
            if options.enableMetrics then state.note .debug "OpenTelemetry metrics initialized"
            else state
          .ok (state.note .info ("Observability initialized: service=" ++
            options.serviceName.display ++ ", log_level=" ++ options.shownLevel))

def reset (state : Telemetry) : Telemetry :=
  { state with monitor := none }

def isCounted (name : String) (amount : Amount) : Bool :=
  amount.isWhole || "_total".toList.reverse.isPrefixOf name.toList.reverse

def noteDropped (state : Telemetry) (count : Nat) : Telemetry :=
  (List.replicate count ()).foldl (fun state _ => state.note .warning
    "invalid attribute key \x60\x60. must be non-empty string. Dropping key from attributes.") state

def addTo (monitor : Monitor) (counted : Bool) (attributes : Attributes) (amount : Amount) :
    Except Amount.Failure Monitor := do
  if counted then return { monitor with counter := ← monitor.counter.add attributes amount }
  else return { monitor with histogram := ← monitor.histogram.add attributes amount }

def action (counted : Bool) : String :=
  if counted then "Add" else "Record"

def instrument (counted : Bool) : String :=
  if counted then "Counter compilations_total" else "Histogram stage_duration_ms"

def negativeMessage (counted : Bool) : String :=
  action counted ++ " amount must be non-negative on " ++ instrument counted ++ "."

def infiniteMessage (counted : Bool) (amount : Amount) : String :=
  action counted ++ " amount " ++ amount.text ++ " is not finite on " ++ instrument counted ++
    ", ignoring measurement."

def measure (state : Telemetry) (name : String) (amount : Amount)
    (attributes : Table String Json) : Except Amount.Failure Telemetry :=
  match state.monitor with
  | none => .ok state
  | some monitor =>
      let counted := isCounted name amount
      if amount.isTooLarge then .error .tooLarge
      else if !amount.isFinite then .ok (state.note .warning (infiniteMessage counted amount))
      else if amount.isNegative then .ok (state.note .warning (negativeMessage counted))
      else do
        let monitor ← addTo monitor counted (Attributes.ofFields attributes) amount
        return { state with monitor := some monitor }.noteDropped
          (Attribute.droppedFields attributes)

def measures (state : Telemetry) : Bool :=
  state.monitor.any fun monitor => monitor.options.enableMetrics

def collect (state : Telemetry) : Except Amount.Failure Telemetry :=
  match state.monitor with
  | none => .ok state
  | some monitor => do
      let monitor := { monitor with
        counter := ← monitor.counter.collect
        histogram := ← monitor.histogram.collect }
      return { state with monitor := some monitor }

def recordMetric (state : Telemetry) (name : String) (value : Json)
    (attributes : Table String Json := []) : Except Amount.Failure Telemetry := do
  let attributes :=
    if (Table.get? "metric" attributes).isSome then attributes
    else Table.put "metric" (.text name) attributes
  let state ←
    if state.measures then state.measure name (← Amount.ofJson value) attributes else pure state
  return state.note .debug ("Metric recorded: " ++ name ++ "=" ++ value.display)

def noteTime (state : Telemetry) (name : String) (seconds : Float) : Telemetry :=
  state.note .debug ("Timer '" ++ name ++ "': " ++ Decimal.fixedText 3 seconds ++ "s")

def recordTime (state : Telemetry) (name : String) (seconds : Float) :
    Except Amount.Failure Telemetry :=
  (state.noteTime name seconds).recordMetric (name ++ "_duration") (.decimal (seconds * 1000))

-- What is noted on an attribute of a span: its own key is told from those inside its value.
def noteAttribute (state : Telemetry) (entry : String × Json) : Telemetry :=
  if entry.1 = "" then
    state.note .warning
      "invalid key \x60\x60. must be non-empty string. Dropping key from attributes."
  else state.noteDropped (Attribute.dropped entry.2)

def maxAttributes : Nat := 128

-- The attributes that a span keeps when they are set one after the other: the last ones.
def keptAttributes (attributes : Table String Json) : Table String Json :=
  let named := attributes.filter fun (key, _) => key ≠ ""
  named.drop (named.length - maxAttributes)

def openSpan (state : Telemetry) (name : String) (attributes : Table String Json) :
    Option Span × Telemetry :=
  match state.monitor with
  | none => (none, state)
  | some monitor =>
      if !monitor.options.enableTracing then (none, state)
      else
        let shown := (Attributes.ofFields (keptAttributes attributes)).map fun (key, value) =>
          (key, Attribute.display value)
        (some ⟨name, shown⟩, attributes.foldl noteAttribute state)

end Telemetry

end ProcessDiagram
