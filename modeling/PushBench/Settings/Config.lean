import PushBench.Json.Field
import PushBench.Sampling.Settings
import PushBench.Settings.Duration
import PushBench.Toml.Field
import PushBench.Workload

/-!
# The configuration file

The four sections of a configuration, all of whose fields have defaults, its forms in JSON and TOML,
and the sampling settings that it asks for.
-/

namespace PushBench

/-! ## Sections -/

/-- What is run. -/
structure WorkloadSection where
  /-- Pushes per invocation. -/
  len : Nat := Workload.standard.len
  deriving DecidableEq, Repr

/-- How cases are sampled. -/
structure SamplerSection where
  /-- The duration of a sample as a text. -/
  window : String := "50ms"
  minSamples : Nat := SamplingSettings.standardMinSamples
  /-- The target of the relative margin in percent. -/
  target : Float := SamplingSettings.standardTarget
  /-- The budget of a case as a text. -/
  maxTime : String := "5s"
  /-- The confidence level as a fraction of one. -/
  confidence : Float := Confidence.standard.fraction
  deriving Repr

/-- Where cases are run. -/
structure RunnerSection where
  /-- The processor that the measuring thread is bound to. -/
  pinCpu : Option Nat := none
  deriving DecidableEq, Repr

/-- How results are reported. -/
structure OutputSection where
  /-- The name of a format. -/
  format : String := "human"
  deriving DecidableEq, Repr

/-- A configuration. -/
structure Config where
  workload : WorkloadSection := {}
  sampler : SamplerSection := {}
  runner : RunnerSection := {}
  output : OutputSection := {}
  deriving Repr

/-! ## JSON -/

namespace WorkloadSection

/-- The section as JSON. -/
def toJson (workload : WorkloadSection) : Json := .object [("len", .ofNat workload.len)]

/-- The section that JSON stands for. -/
def ofJson (json : Json) : Option WorkloadSection := do
  let fields ← json.fields ["len"]
  let defaults : WorkloadSection := {}
  let len ← fields.defaulted "len" defaults.len Json.asShortCount
  return { len }

/-- The section that TOML stands for. -/
def ofToml (toml : Toml) : Option WorkloadSection := do
  let fields ← toml.fields ["len"]
  let defaults : WorkloadSection := {}
  let len ← fields.defaulted "len" defaults.len Toml.asShortCount
  return { len }

end WorkloadSection

namespace SamplerSection

/-- The names of the fields, in order. -/
def fieldNames : List String :=
  ["sample_window", "min_samples", "target_rme", "max_time", "confidence_level"]

/-- The section as JSON. -/
def toJson (sampler : SamplerSection) : Json :=
  .object
    [("sample_window", .string sampler.window),
      ("min_samples", .ofNat sampler.minSamples),
      ("target_rme", .ofFloat sampler.target),
      ("max_time", .string sampler.maxTime),
      ("confidence_level", .ofFloat sampler.confidence)]

/-- The section that JSON stands for. -/
def ofJson (json : Json) : Option SamplerSection := do
  let fields ← json.fields fieldNames
  let defaults : SamplerSection := {}
  let window ← fields.defaulted "sample_window" defaults.window Json.asString
  let minSamples ← fields.defaulted "min_samples" defaults.minSamples Json.asCount
  let target ← fields.defaulted "target_rme" defaults.target Json.asFloat
  let maxTime ← fields.defaulted "max_time" defaults.maxTime Json.asString
  let confidence ← fields.defaulted "confidence_level" defaults.confidence Json.asFloat
  return { window, minSamples, target, maxTime, confidence }

/-- The section that TOML stands for. -/
def ofToml (toml : Toml) : Option SamplerSection := do
  let fields ← toml.fields fieldNames
  let defaults : SamplerSection := {}
  let window ← fields.defaulted "sample_window" defaults.window Toml.asString
  let minSamples ← fields.defaulted "min_samples" defaults.minSamples Toml.asCount
  let target ← fields.defaulted "target_rme" defaults.target Toml.asFloat
  let maxTime ← fields.defaulted "max_time" defaults.maxTime Toml.asString
  let confidence ← fields.defaulted "confidence_level" defaults.confidence Toml.asFloat
  return { window, minSamples, target, maxTime, confidence }

end SamplerSection

namespace RunnerSection

/-- The section as JSON. -/
def toJson (runner : RunnerSection) : Json :=
  .object [("pin_cpu", .ofOption Json.ofNat runner.pinCpu)]

/-- The section that JSON stands for. -/
def ofJson (json : Json) : Option RunnerSection := do
  let fields ← json.fields ["pin_cpu"]
  let pinCpu ← fields.defaulted "pin_cpu" none (Json.orNull Json.asCount)
  return { pinCpu }

/-- The section that TOML stands for. -/
def ofToml (toml : Toml) : Option RunnerSection := do
  let fields ← toml.fields ["pin_cpu"]
  let pinCpu ← fields.defaulted "pin_cpu" none fun value ↦ (Toml.asCount value).map some
  return { pinCpu }

end RunnerSection

namespace OutputSection

/-- The section as JSON. -/
def toJson (output : OutputSection) : Json := .object [("format", .string output.format)]

/-- The section that JSON stands for. -/
def ofJson (json : Json) : Option OutputSection := do
  let fields ← json.fields ["format"]
  let defaults : OutputSection := {}
  let format ← fields.defaulted "format" defaults.format Json.asString
  return { format }

/-- The section that TOML stands for. -/
def ofToml (toml : Toml) : Option OutputSection := do
  let fields ← toml.fields ["format"]
  let defaults : OutputSection := {}
  let format ← fields.defaulted "format" defaults.format Toml.asString
  return { format }

end OutputSection

namespace Config

/-- The names of the sections, in order. -/
def sectionNames : List String := ["workload", "sampler", "runner", "output"]

/-- A configuration as JSON. -/
def toJson (config : Config) : Json :=
  .object
    [("workload", config.workload.toJson),
      ("sampler", config.sampler.toJson),
      ("runner", config.runner.toJson),
      ("output", config.output.toJson)]

/-- The configuration that JSON stands for. -/
def ofJson (json : Json) : Option Config := do
  let fields ← json.fields sectionNames
  let workload ← fields.defaulted "workload" {} WorkloadSection.ofJson
  let sampler ← fields.defaulted "sampler" {} SamplerSection.ofJson
  let runner ← fields.defaulted "runner" {} RunnerSection.ofJson
  let output ← fields.defaulted "output" {} OutputSection.ofJson
  return { workload, sampler, runner, output }

/-- The configuration that TOML stands for. -/
def ofToml (toml : Toml) : Option Config := do
  let fields ← toml.fields sectionNames
  let workload ← fields.defaulted "workload" {} WorkloadSection.ofToml
  let sampler ← fields.defaulted "sampler" {} SamplerSection.ofToml
  let runner ← fields.defaulted "runner" {} RunnerSection.ofToml
  let output ← fields.defaulted "output" {} OutputSection.ofToml
  return { workload, sampler, runner, output }

/-- The text of a file with the default configuration. -/
def defaultText : String :=
  "# pvbench Configuration\n\n" ++
  "[workload]\n" ++
  "# Elements pushed per invocation\n" ++
  "len = 1000\n\n" ++
  "[sampler]\n" ++
  "# Target duration of one sample\n" ++
  "sample_window = \"50ms\"\n" ++
  "# Minimum samples before the margin target can stop sampling\n" ++
  "min_samples = 5\n" ++
  "# Relative margin of error target, percent\n" ++
  "target_rme = 1.0\n" ++
  "# Per-case time budget; cases that run out are flagged low-confidence\n" ++
  "max_time = \"5s\"\n" ++
  "# Confidence level: 0.90, 0.95 or 0.99\n" ++
  "confidence_level = 0.95\n\n" ++
  "[runner]\n" ++
  "# Pin the measuring thread to a CPU (uncomment to enable, Linux only)\n" ++
  "# pin_cpu = 0\n\n" ++
  "[output]\n" ++
  "# Default output format: human, json\n" ++
  "format = \"human\"\n"

end Config

/-! ## Sampling settings -/

/-- Why sampling settings cannot be made of what was asked for. -/
inductive SamplingError where
  | duration (error : InvalidDuration)
  | confidence (error : UnsupportedConfidence)
  | settings (error : SettingsError)

/-- The text of the error. -/
def SamplingError.message : SamplingError → String
  | .duration error => error.message
  | .confidence error => error.message
  | .settings error => error.message

/-- The nanoseconds of a duration. -/
def durationOf (text : String) : Except SamplingError Nat :=
  (Duration.read text.toList).mapError .duration

/-- The level of a fraction. -/
def confidenceOf (value : Float) : Except SamplingError Confidence :=
  (Confidence.ofFraction value).mapError .confidence

/-- Settings that are valid. -/
def SamplingSettings.validated (settings : SamplingSettings Float) :
    Except SamplingError (SamplingSettings Float) :=
  match settings.validate with
  | .ok () => .ok settings
  | .error error => .error (.settings error)

/-- The sampling settings of a configuration. Of several faults that of the window comes first, then
that of the budget, that of the level, and those of the settings as a whole. -/
def Config.sampling (config : Config) : Except SamplingError (SamplingSettings Float) := do
  let window ← durationOf config.sampler.window
  let budget ← durationOf config.sampler.maxTime
  let confidence ← confidenceOf config.sampler.confidence
  SamplingSettings.validated
    ⟨window, config.sampler.minSamples, config.sampler.target, budget, confidence⟩

end PushBench
