import PushBench.Suite.Outcome
import PushBench.Json.Field

/-!
# Suite results as JSON

Every value that makes up a suite result has an encoding and a decoding. A margin that is not finite
is written as `null` and read as infinite; a confidence level travels as its fraction. An outcome is
one flat object: its name, its status, and then the fields of the status.
-/

namespace PushBench

/-! ## Samples -/

namespace Sample

/-- A sample as JSON. -/
def toJson (sample : Sample) : Json :=
  .object
    [("elapsed_nanos", .ofNat sample.elapsed), ("iterations", .ofNat sample.iterations)]

/-- The sample that JSON stands for. -/
def ofJson (json : Json) : Option Sample := do
  let fields ← json.fields ["elapsed_nanos", "iterations"]
  let elapsed ← fields.required "elapsed_nanos" Json.asCount
  let iterations ← fields.required "iterations" Json.asCount
  return ⟨elapsed, iterations⟩

end Sample

/-! ## Choices -/

namespace Confidence

/-- A confidence level as JSON. -/
def toJson (level : Confidence) : Json := .ofFloat level.fraction

/-- The confidence level that JSON stands for. -/
def ofJson (json : Json) : Option Confidence :=
  json.asFloat.bind fun value ↦ (ofFraction value).toOption

end Confidence

namespace AdapterKind

/-- The kind of a tag. -/
def ofTag? : String → Option AdapterKind
  | "gc-managed" => some .collected
  | "manually-released" => some .manual
  | _ => none

/-- A kind as JSON. -/
def toJson (kind : AdapterKind) : Json := .string kind.tag

/-- The kind that JSON stands for. -/
def ofJson (json : Json) : Option AdapterKind := json.asChoice Json.isNull ofTag?

end AdapterKind

namespace FailureKind

/-- The category of a tag. -/
def ofTag? : String → Option FailureKind
  | "release-protocol" => some .releaseProtocol
  | "execution" => some .execution
  | "panicked" => some .panicked
  | _ => none

/-- A category as JSON. -/
def toJson (kind : FailureKind) : Json := .string kind.tag

/-- The category that JSON stands for. -/
def ofJson (json : Json) : Option FailureKind := json.asChoice Json.isNull ofTag?

end FailureKind

namespace Convergence

/-- The end of sampling of a tag. -/
def ofTag? : String → Option Convergence
  | "converged" => some .converged
  | "budget-exhausted" => some .budgetExhausted
  | _ => none

/-- The end of sampling as JSON. -/
def toJson (convergence : Convergence) : Json := .string convergence.tag

/-- The end of sampling that JSON stands for. -/
def ofJson (json : Json) : Option Convergence := json.asChoice Json.isNull ofTag?

end Convergence

/-! ## Statistics -/

namespace Statistics

/-- The names of the fields, in order. -/
def fieldNames : List String :=
  ["sample_count", "iterations", "mean_ns", "median_ns", "min_ns", "max_ns", "std_dev_ns",
    "sem_ns", "moe_ns", "rme", "ops_per_sec", "confidence_level"]

/-- Statistics as JSON. -/
def toJson (statistics : Statistics Float) : Json :=
  .object
    [("sample_count", .ofNat statistics.sampleCount),
      ("iterations", .ofNat statistics.iterations),
      ("mean_ns", .ofFloat statistics.mean),
      ("median_ns", .ofFloat statistics.median),
      ("min_ns", .ofFloat statistics.least),
      ("max_ns", .ofFloat statistics.greatest),
      ("std_dev_ns", .ofFloat statistics.standardDeviation),
      ("sem_ns", .ofFloat statistics.standardError),
      ("moe_ns", .ofFloat statistics.margin),
      ("rme", .ofFloat statistics.relativeMargin),
      ("ops_per_sec", .ofFloat statistics.rate),
      ("confidence_level", statistics.confidence.toJson)]

/-- A margin, for which `null` stands if it is unbounded. -/
def marginOfJson (json : Json) : Option Float :=
  (json.orNull Json.asFloat).map (·.getD Binary64.infinity)

/-- The statistics that JSON stands for. -/
def ofJson (json : Json) : Option (Statistics Float) := do
  let fields ← json.fields fieldNames
  let sampleCount ← fields.required "sample_count" Json.asCount
  let iterations ← fields.required "iterations" Json.asCount
  let mean ← fields.required "mean_ns" Json.asFloat
  let median ← fields.required "median_ns" Json.asFloat
  let least ← fields.required "min_ns" Json.asFloat
  let greatest ← fields.required "max_ns" Json.asFloat
  let standardDeviation ← fields.required "std_dev_ns" Json.asFloat
  let standardError ← fields.required "sem_ns" Json.asFloat
  let margin ← fields.required "moe_ns" marginOfJson
  let relativeMargin ← fields.required "rme" marginOfJson
  let rate ← fields.required "ops_per_sec" Json.asFloat
  let confidence ← fields.required "confidence_level" Confidence.ofJson
  return { sampleCount, iterations, mean, median, least, greatest, standardDeviation,
           standardError, margin, relativeMargin, rate, confidence }

end Statistics

/-! ## Measurements -/

namespace SamplingSettings

/-- Settings as JSON. -/
def toJson (settings : SamplingSettings Float) : Json :=
  .object
    [("sample_window_ns", .ofNat settings.window),
      ("min_samples", .ofNat settings.minSamples),
      ("target_rme", .ofFloat settings.target),
      ("max_time_ns", .ofNat settings.budget),
      ("confidence_level", settings.confidence.toJson)]

/-- The settings that JSON stands for. -/
def ofJson (json : Json) : Option (SamplingSettings Float) := do
  let fields ← json.fields
    ["sample_window_ns", "min_samples", "target_rme", "max_time_ns", "confidence_level"]
  let window ← fields.required "sample_window_ns" Json.asCount
  let minSamples ← fields.required "min_samples" Json.asCount
  let target ← fields.required "target_rme" Json.asFloat
  let budget ← fields.required "max_time_ns" Json.asCount
  let confidence ← fields.required "confidence_level" Confidence.ofJson
  return { window, minSamples, target, budget, confidence }

end SamplingSettings

namespace Measurement

/-- The members of a measurement, in order. -/
def toMembers (measurement : Measurement Float) : List (String × Json) :=
  [("statistics", measurement.statistics.toJson),
    ("samples", .array (measurement.samples.map Sample.toJson)),
    ("convergence", measurement.convergence.toJson),
    ("elapsed_ns", .ofNat measurement.elapsed)]

/-- A measurement as JSON. -/
def toJson (measurement : Measurement Float) : Json := .object measurement.toMembers

/-- The measurement that JSON stands for, with a way to read how sampling ended. -/
def ofJsonWith (ending : Json → Option Convergence) (json : Json) :
    Option (Measurement Float) := do
  let fields ← json.fields ["statistics", "samples", "convergence", "elapsed_ns"]
  let statistics ← fields.required "statistics" Statistics.ofJson
  let samples ← fields.required "samples" (Json.asList Sample.ofJson)
  let convergence ← fields.required "convergence" ending
  let elapsed ← fields.required "elapsed_ns" Json.asCount
  return { statistics, samples, convergence, elapsed }

/-- The measurement that JSON stands for. -/
def ofJson : Json → Option (Measurement Float) := ofJsonWith Convergence.ofJson

end Measurement

/-! ## Outcomes -/

namespace CaseOutcome

/-- The members that a status adds to an outcome, in order. -/
def statusMembers : CaseStatus Float → List (String × Json)
  | .completed measurement => ("status", .string "completed") :: measurement.toMembers
  | .failed kind message =>
    [("status", .string "failed"), ("kind", kind.toJson), ("message", .string message)]
  | .skipped reason => [("status", .string "skipped"), ("reason", .string reason)]

/-- An outcome as JSON. -/
def toJson (outcome : CaseOutcome Float) : Json :=
  .object (("name", .string outcome.name) :: statusMembers outcome.status)

/-- Within an outcome a choice may carry `null` or an empty object. -/
def isUnit : Json → Bool
  | .null => true
  | .object [] => true
  | _ => false

/-- The statuses. -/
inductive StatusTag where
  | completed
  | failed
  | skipped

/-- The status that is named by a text or by its number. -/
def StatusTag.ofJson : Json → Option StatusTag
  | .string "completed" => some .completed
  | .string "failed" => some .failed
  | .string "skipped" => some .skipped
  | .number ['0'] => some .completed
  | .number ['1'] => some .failed
  | .number ['2'] => some .skipped
  | _ => none

/-- The status that the remaining members of an outcome stand for. -/
def statusOfJson (tag : StatusTag) (rest : Json) : Option (CaseStatus Float) :=
  match tag with
  | .completed =>
    (Measurement.ofJsonWith (Json.asChoice isUnit Convergence.ofTag?) rest).map .completed
  | .failed => do
    let fields ← rest.fields ["kind", "message"]
    let kind ← fields.required "kind" (Json.asChoice isUnit FailureKind.ofTag?)
    let message ← fields.required "message" Json.asString
    return .failed kind message
  | .skipped => do
    let fields ← rest.fields ["reason"]
    let reason ← fields.required "reason" Json.asString
    return .skipped reason

mutual

/-- Whether every number in a value fits into a double, every string is a text, and at most `room`
arrays and objects lie inside each other. -/
def isSound (room : Nat) : Json → Bool
  | .number literal => (Json.asFloat (.number literal)).isSome
  | .unpaired => false
  | .array items => decide (0 < room) && areSound (room - 1) items
  | .object members => decide (0 < room) && areSoundMembers (room - 1) members
  | _ => true

/-- Whether all items are sound. -/
def areSound (room : Nat) : List Json → Bool
  | [] => true
  | item :: rest => isSound room item && areSound room rest

/-- Whether all members are sound. -/
def areSoundMembers (room : Nat) : List (String × Json) → Bool
  | [] => true
  | (_, value) :: rest => isSound room value && areSoundMembers room rest

end

/-- How many arrays and objects may lie inside each other, counted from the whole text. -/
def depthLimit : Nat := 127

/-- The outcome that JSON stands for, which lies `depth` deep in its text. As the status may come
last, every member has to be sound, also those that the status does not know. -/
def ofJsonAt (depth : Nat) : Json → Option (CaseOutcome Float)
  | .object members => do
    let fields ← (Json.object members).fields ["name", "status"]
    let name ← fields.required "name" Json.asString
    let tag ← fields.required "status" StatusTag.ofJson
    if !areSoundMembers (depthLimit - depth - 1) members then none
    let rest := members.filter fun member ↦ !(["name", "status"].contains member.1)
    let status ← statusOfJson tag (.object rest)
    return ⟨name, status⟩
  | _ => none

/-- The outcome that a whole text stands for. -/
def ofJson : Json → Option (CaseOutcome Float) := ofJsonAt 0

end CaseOutcome

namespace SuiteResult

/-- A suite result as JSON. -/
def toJson (result : SuiteResult Float) : Json :=
  .object
    [("outcomes", .array (result.outcomes.map CaseOutcome.toJson)),
      ("fastest", .ofOption .string result.fastest),
      ("cancelled", .bool result.cancelled)]

/-- The suite result that JSON stands for. -/
def ofJson (json : Json) : Option (SuiteResult Float) := do
  let fields ← json.fields ["outcomes", "fastest", "cancelled"]
  let outcomes ← fields.required "outcomes" (Json.asList (CaseOutcome.ofJsonAt 2))
  let fastest ← fields.optional "fastest" Json.asString
  let cancelled ← fields.required "cancelled" Json.asBool
  return ⟨outcomes, fastest, cancelled⟩

end SuiteResult

end PushBench
