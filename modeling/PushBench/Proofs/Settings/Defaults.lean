import PushBench.Settings.Discovery

/-!
# Defaults of the configuration file

Where a configuration file is silent, be it about a field or about a whole section, the
configuration has the built-in value. Where it is not, it has what the file says.
-/

namespace PushBench

variable {α σ : Type}

/-- What a file says about a field decides its value, and the default does if it says nothing. -/
def Toml.Decides (entry : Option Toml) (default : α) (decode : Toml → Option α) (value : α) :
    Prop :=
  match entry with
  | some toml => decode toml = some value
  | none => value = default

/-- What a file says about a field of one of its sections. -/
def Config.entry (toml : Toml) (title : String) (names : List String) (field : String) :
    Option Toml := do
  let sections ← toml.fields sectionNames
  let fields ← (← sections.lookup title).fields names
  fields.lookup field

/-- A configuration has what a file says, and else the built-in values. -/
structure Config.Follows (config : Config) (toml : Toml) : Prop where
  len : Toml.Decides (entry toml "workload" ["len"] "len") 1000 Toml.asShortCount
    config.workload.len
  window : Toml.Decides (entry toml "sampler" SamplerSection.fieldNames "sample_window") "50ms"
    Toml.asString config.sampler.window
  minSamples : Toml.Decides (entry toml "sampler" SamplerSection.fieldNames "min_samples") 5
    Toml.asCount config.sampler.minSamples
  target : Toml.Decides (entry toml "sampler" SamplerSection.fieldNames "target_rme") 1.0
    Toml.asFloat config.sampler.target
  maxTime : Toml.Decides (entry toml "sampler" SamplerSection.fieldNames "max_time") "5s"
    Toml.asString config.sampler.maxTime
  confidence : Toml.Decides (entry toml "sampler" SamplerSection.fieldNames "confidence_level") 0.95
    Toml.asFloat config.sampler.confidence
  pinCpu : Toml.Decides (entry toml "runner" ["pin_cpu"] "pin_cpu") none
    (fun value ↦ (Toml.asCount value).map some) config.runner.pinCpu
  format : Toml.Decides (entry toml "output" ["format"] "format") "human" Toml.asString
    config.output.format

namespace Toml

end Toml

end PushBench
