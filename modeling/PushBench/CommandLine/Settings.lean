import PushBench.CommandLine.Flags
import PushBench.Report.Format
import PushBench.Settings.Config

/-!
# Settings of a run

The settings that a configuration file and the flags over it come to. A flag takes the place of the
value in the file, but the sampling section of the file has to be valid all the same.
-/

namespace PushBench

/-- The settings of a run. -/
structure RunSettings where
  workload : Workload
  sampling : SamplingSettings Float
  format : OutputFormat
  /-- The path of the report, if it goes to a file. -/
  output : Option String
  pinCpu : Option Nat
  verify : Bool
  deriving Repr

/-- Why the settings of a run are refused. -/
inductive SettingsRefusal where
  | sampling (error : SamplingError)
  | format (error : UnknownFormat)

/-- The text of the error. -/
def SettingsRefusal.message : SettingsRefusal → String
  | .sampling error => error.message
  | .format error => error.message

namespace Flags

/-- A duration of the flags, or the one without flags. -/
def durationOr (flag : Option String) (without : Nat) : Except SamplingError Nat :=
  match flag with
  | some text => durationOf text
  | none => .ok without

/-- A level of the flags, or the one without flags. -/
def confidenceOr (flag : Option Float) (without : Confidence) : Except SamplingError Confidence :=
  match flag with
  | some value => confidenceOf value
  | none => .ok without

/-- Lays the flags over sampling settings. Of several faults that of the window comes first, then
that of the budget, that of the level, and those of the settings as a whole. -/
def overSampling (flags : Flags) (settings : SamplingSettings Float) :
    Except SamplingError (SamplingSettings Float) := do
  let window ← durationOr flags.window settings.window
  let budget ← durationOr flags.maxTime settings.budget
  let confidence ← confidenceOr flags.confidence settings.confidence
  SamplingSettings.validated
    { window, budget, confidence
      minSamples := flags.minSamples.getD settings.minSamples
      target := flags.target.getD settings.target }

/-- The sampling settings that a configuration and the flags over it come to. -/
def samplingWith (flags : Flags) (config : Config) :
    Except SamplingError (SamplingSettings Float) :=
  config.sampling.bind flags.overSampling

/-- The settings that a configuration and the flags over it come to. -/
def settingsWith (flags : Flags) (config : Config) : Except SettingsRefusal RunSettings := do
  let sampling ← (flags.samplingWith config).mapError .sampling
  let format ← (OutputFormat.parse (flags.format.getD config.output.format)).mapError .format
  return {
    workload := ⟨flags.len.getD config.workload.len⟩
    sampling
    format
    output := flags.output
    pinCpu := flags.pinCpu.or config.runner.pinCpu
    verify := flags.verify }

end Flags

end PushBench
