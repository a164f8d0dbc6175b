import LoadBalancer.Document.Fields
import LoadBalancer.Error
import LoadBalancer.Net.Endpoint

/-!
# Reporting settings

What is measured and logged, and in which form.

* `MetricsSettings`, `LogSettings`, `Reporting` – the settings, with their documents;
* `MetricsSettings.install` – setting up the recorder of measurements in a process that has one;
* `LogSettings.install` – setting up logging in a process that has it.
-/

namespace LoadBalancer

open LoadBalancer.Document LoadBalancer.Net

/-! ### Measurements -/

/-- What is measured, and where measurements can be read. -/
structure MetricsSettings where
  enabled : Bool
  /-- Where measurements can be read over the network. -/
  listen : Option Endpoint
  /-- The bounds of the classes of latencies, in seconds. -/
  buckets : List Binary64
  /-- Labels of every measurement. -/
  labels : Labels
  deriving DecidableEq, Repr

namespace MetricsSettings

/-- A number of so many hundredths of a thousandth. -/
def hundredths (n : Nat) : Binary64 := Binary64.ofDecimal false n 0 5

/-- The settings when nothing is said about them. -/
def default : MetricsSettings :=
  ⟨true, none, [1, 5, 10, 50, 100, 500, 1000, 5000, 10000].map hundredths, Labels.empty⟩

/-- The endpoint that a text stands for. -/
def readEndpoint : Reading Endpoint :=
  readScalar fun s => s.text?.bind Endpoint.read

/-- The fields of the settings, in order. -/
def fields : List (RecordField MetricsSettings) :=
  [.optional "enabled" [] readFlag fun v m => { m with enabled := v },
   .optional "listen_address" [] (readOptional readEndpoint) fun v m => { m with listen := v },
   .optional "latency_buckets" [] (readList readNumber) fun v m => { m with buckets := v },
   .optional "global_labels" [] readLabels fun v m => { m with labels := v }]

/-- Settings from a document. -/
def ofNode : Reading MetricsSettings :=
  readRecord fields default

/-- The settings as a document. -/
def toNode (m : MetricsSettings) : Node :=
  .record
    [(.scalar (.text "enabled"), .scalar (.flag m.enabled)),
     (.scalar (.text "listen_address"),
      .scalar (match m.listen with | some e => .text e.text | none => .null)),
     (.scalar (.text "latency_buckets"),
      .list false (m.buckets.map fun b => .scalar (.number b)) true),
     (.scalar (.text "global_labels"),
      .record (m.labels.entries.map fun e => (.scalar (.text e.1), .scalar (.text e.2))) true)]
    true

/-- Whether a recorder is set up, in a process that has one already: not if measurements are off, and
otherwise there is an error in any case. -/
def install (m : MetricsSettings) : Except Error Bool :=
  if !m.enabled then .ok false
  else if m.buckets.isEmpty then
    .error (.configuration "Invalid latency buckets: bucket bounds/quantiles cannot be empty")
  else
    .error (.internal ("Failed to install metrics recorder: failed to install exporter as global " ++
      "recorder: attempted to set a recorder after the metrics system was already initialized"))

end MetricsSettings

/-! ### Logs -/

/-- The form of log lines. -/
inductive LogFormat where
  | json
  | text
  deriving DecidableEq, Repr

namespace LogFormat

/-- The name of a form. -/
def name : LogFormat → String
  | .json => "json"
  | .text => "text"

/-- The form of a name. -/
def ofName? (s : String) : Option LogFormat :=
  [json, text].find? (·.name == s)

/-- A form from a document: its name, or a record whose only entry has the name and no value. -/
def ofNode : Reading LogFormat := fun n => do
  match ← follow n with
  | .scalar s => orUnsuitable (s.choice?.bind ofName?)
  | .record [(.scalar (.text name), .scalar .null)] closed =>
    let f ← orUnsuitable (ofName? name)
    checkClosed closed
    return f
  | .broken => throw .malformed
  | _ => throw .unsuitable

end LogFormat

/-- What is logged, and in which form. -/
structure LogSettings where
  level : String
  format : LogFormat
  deriving DecidableEq, Repr

namespace LogSettings

/-- The settings when nothing is said about them. -/
def default : LogSettings := ⟨"info", .json⟩

/-- The fields of the settings, in order. -/
def fields : List (RecordField LogSettings) :=
  [.optional "level" [] readText fun v l => { l with level := v },
   .optional "format" [] LogFormat.ofNode fun v l => { l with format := v }]

/-- Settings from a document. -/
def ofNode : Reading LogSettings :=
  readRecord fields default

/-- The settings as a document. -/
def toNode (l : LogSettings) : Node :=
  .record
    [(.scalar (.text "level"), .scalar (.text l.level)),
     (.scalar (.text "format"), .scalar (.text l.format.name))]
    true

/-- Whether logging is set up, in a process that has it already: never. -/
def install (_ : LogSettings) : Bool := false

end LogSettings

/-! ### Both -/

/-- What is measured and logged. -/
structure Reporting where
  metrics : MetricsSettings
  logging : LogSettings
  deriving DecidableEq, Repr

namespace Reporting

/-- The settings when nothing is said about them. -/
def default : Reporting := ⟨.default, .default⟩

/-- The fields of the settings, in order. -/
def fields : List (RecordField Reporting) :=
  [.optional "metrics" [] MetricsSettings.ofNode fun v r => { r with metrics := v },
   .optional "logging" [] LogSettings.ofNode fun v r => { r with logging := v }]

/-- Settings from a document. -/
def ofNode : Reading Reporting :=
  readRecord fields default

/-- The settings as a document. -/
def toNode (r : Reporting) : Node :=
  .record
    [(.scalar (.text "metrics"), r.metrics.toNode),
     (.scalar (.text "logging"), r.logging.toNode)]
    true

end Reporting

end LoadBalancer
