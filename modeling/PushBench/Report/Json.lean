import PushBench.Report.Basic
import PushBench.Json.Field
import PushBench.Json.Reader
import PushBench.Json.Writer

/-!
# Reports as JSON

Every part of a report has an encoding and a decoding. A margin that is unbounded is `null`.
-/

namespace PushBench

namespace ReportSettings

/-- Settings as JSON. -/
def toJson (settings : ReportSettings) : Json :=
  .object
    [("len", .ofNat settings.len),
      ("sample_window_ns", .ofNat settings.window),
      ("min_samples", .ofNat settings.minSamples),
      ("target_rme", .ofFloat settings.target),
      ("max_time_ns", .ofNat settings.budget),
      ("confidence_level", .ofFloat settings.confidence)]

/-- The settings that JSON stands for. -/
def ofJson (json : Json) : Option ReportSettings := do
  let fields ← json.fields
    ["len", "sample_window_ns", "min_samples", "target_rme", "max_time_ns", "confidence_level"]
  let len ← fields.required "len" Json.asShortCount
  let window ← fields.required "sample_window_ns" Json.asCount
  let minSamples ← fields.required "min_samples" Json.asCount
  let target ← fields.required "target_rme" Json.asFloat
  let budget ← fields.required "max_time_ns" Json.asCount
  let confidence ← fields.required "confidence_level" Json.asFloat
  return { len, window, minSamples, target, budget, confidence }

end ReportSettings

namespace Timestamp

/-- An instant as JSON. -/
def toJson (timestamp : Timestamp) : Json := .string (String.ofList timestamp.text)

/-- The instant that JSON stands for. -/
def ofJson (json : Json) : Option Timestamp := json.asString.bind fun text ↦ read text.toList

end Timestamp

namespace ReportHeader

/-- A header as JSON. -/
def toJson (header : ReportHeader) : Json :=
  .object
    [("schema_version", .ofNat header.schema),
      ("version", .string header.version),
      ("timestamp", header.timestamp.toJson),
      ("config", header.settings.toJson)]

/-- The header that JSON stands for. -/
def ofJson (json : Json) : Option ReportHeader := do
  let fields ← json.fields ["schema_version", "version", "timestamp", "config"]
  let schema ← fields.required "schema_version" Json.asShortCount
  let version ← fields.required "version" Json.asString
  let timestamp ← fields.required "timestamp" Timestamp.ofJson
  let settings ← fields.required "config" ReportSettings.ofJson
  return { schema, version, timestamp, settings }

end ReportHeader

namespace EntryStatus

/-- The status as it is written in JSON. -/
def tag : EntryStatus → String
  | .converged => "converged"
  | .lowConfidence => "low-confidence"
  | .failed => "failed"
  | .skipped => "skipped"

/-- The status of a tag. -/
def ofTag? : String → Option EntryStatus
  | "converged" => some .converged
  | "low-confidence" => some .lowConfidence
  | "failed" => some .failed
  | "skipped" => some .skipped
  | _ => none

/-- A status as JSON. -/
def toJson (status : EntryStatus) : Json := .string status.tag

/-- The status that JSON stands for. -/
def ofJson (json : Json) : Option EntryStatus := json.asChoice Json.isNull ofTag?

end EntryStatus

namespace Metrics

/-- The names of the fields, in order. -/
def fieldNames : List String :=
  ["samples", "iterations", "mean_ns", "median_ns", "min_ns", "max_ns", "std_dev_ns", "moe_ns",
    "rme", "ops_per_sec", "confidence_level", "elapsed_ns"]

/-- The numbers as JSON. -/
def toJson (metrics : Metrics) : Json :=
  .object
    [("samples", .ofNat metrics.samples),
      ("iterations", .ofNat metrics.iterations),
      ("mean_ns", .ofFloat metrics.mean),
      ("median_ns", .ofFloat metrics.median),
      ("min_ns", .ofFloat metrics.least),
      ("max_ns", .ofFloat metrics.greatest),
      ("std_dev_ns", .ofFloat metrics.standardDeviation),
      ("moe_ns", .ofOption Json.ofFloat metrics.margin),
      ("rme", .ofOption Json.ofFloat metrics.relativeMargin),
      ("ops_per_sec", .ofFloat metrics.rate),
      ("confidence_level", .ofFloat metrics.confidence),
      ("elapsed_ns", .ofNat metrics.elapsed)]

/-- The numbers that JSON stands for. -/
def ofJson (json : Json) : Option Metrics := do
  let fields ← json.fields fieldNames
  let samples ← fields.required "samples" Json.asCount
  let iterations ← fields.required "iterations" Json.asCount
  let mean ← fields.required "mean_ns" Json.asFloat
  let median ← fields.required "median_ns" Json.asFloat
  let least ← fields.required "min_ns" Json.asFloat
  let greatest ← fields.required "max_ns" Json.asFloat
  let standardDeviation ← fields.required "std_dev_ns" Json.asFloat
  let margin ← fields.optional "moe_ns" Json.asFloat
  let relativeMargin ← fields.optional "rme" Json.asFloat
  let rate ← fields.required "ops_per_sec" Json.asFloat
  let confidence ← fields.required "confidence_level" Json.asFloat
  let elapsed ← fields.required "elapsed_ns" Json.asCount
  return { samples, iterations, mean, median, least, greatest, standardDeviation, margin,
           relativeMargin, rate, confidence, elapsed }

end Metrics

namespace FailureNote

/-- A failure as JSON. -/
def toJson (note : FailureNote) : Json :=
  .object [("kind", .string note.kind), ("message", .string note.message)]

/-- The failure that JSON stands for. -/
def ofJson (json : Json) : Option FailureNote := do
  let fields ← json.fields ["kind", "message"]
  let kind ← fields.required "kind" Json.asString
  let message ← fields.required "message" Json.asString
  return { kind, message }

end FailureNote

namespace ReportEntry

/-- An entry as JSON. -/
def toJson (entry : ReportEntry) : Json :=
  .object
    [("name", .string entry.name),
      ("status", entry.status.toJson),
      ("metrics", .ofOption Metrics.toJson entry.metrics),
      ("failure", .ofOption FailureNote.toJson entry.failure),
      ("skip_reason", .ofOption Json.string entry.skipReason)]

/-- The entry that JSON stands for. -/
def ofJson (json : Json) : Option ReportEntry := do
  let fields ← json.fields ["name", "status", "metrics", "failure", "skip_reason"]
  let name ← fields.required "name" Json.asString
  let status ← fields.required "status" EntryStatus.ofJson
  let metrics ← fields.optional "metrics" Metrics.ofJson
  let failure ← fields.optional "failure" FailureNote.ofJson
  let skipReason ← fields.optional "skip_reason" Json.asString
  return { name, status, metrics, failure, skipReason }

end ReportEntry

namespace ReportSummary

/-- The totals as JSON. -/
def toJson (summary : ReportSummary) : Json :=
  .object
    [("total_cases", .ofNat summary.total),
      ("converged", .ofNat summary.converged),
      ("low_confidence", .ofNat summary.lowConfidence),
      ("failed", .ofNat summary.failed),
      ("skipped", .ofNat summary.skipped),
      ("total_sampling_ms", .ofFloat summary.samplingTime)]

/-- The totals that JSON stands for. -/
def ofJson (json : Json) : Option ReportSummary := do
  let fields ← json.fields
    ["total_cases", "converged", "low_confidence", "failed", "skipped", "total_sampling_ms"]
  let total ← fields.required "total_cases" Json.asCount
  let converged ← fields.required "converged" Json.asCount
  let lowConfidence ← fields.required "low_confidence" Json.asCount
  let failed ← fields.required "failed" Json.asCount
  let skipped ← fields.required "skipped" Json.asCount
  let samplingTime ← fields.required "total_sampling_ms" Json.asFloat
  return { total, converged, lowConfidence, failed, skipped, samplingTime }

end ReportSummary

namespace Report

/-- A report as JSON. -/
def toJson (report : Report) : Json :=
  .object
    [("meta", report.header.toJson),
      ("results", .array (report.entries.map ReportEntry.toJson)),
      ("fastest", .ofOption Json.string report.fastest),
      ("cancelled", .bool report.cancelled),
      ("summary", report.summary.toJson)]

/-- The report that JSON stands for. -/
def ofJson (json : Json) : Option Report := do
  let fields ← json.fields ["meta", "results", "fastest", "cancelled", "summary"]
  let header ← fields.required "meta" ReportHeader.ofJson
  let entries ← fields.required "results" (Json.asList ReportEntry.ofJson)
  let fastest ← fields.optional "fastest" Json.asString
  let cancelled ← fields.required "cancelled" Json.asBool
  let summary ← fields.required "summary" ReportSummary.ofJson
  return { header, entries, fastest, cancelled, summary }

/-- The JSON text of a report. -/
def jsonText (report : Report) : String := String.ofList report.toJson.pretty

/-- The report that a JSON text stands for. -/
def parse (text : String) : Option Report := (Json.read text.toList).bind ofJson

end Report

end PushBench
