import PushBench.Statistics.Summary

/-!
# Sampling settings

How long samples take and when a case has been sampled enough.
-/

namespace PushBench

/-- The settings of the sampling loop. Times are in nanoseconds. -/
structure SamplingSettings (α : Type) where
  /-- The duration that a sample should have. -/
  window : Nat
  /-- Fewer samples than these never end sampling by their margin. -/
  minSamples : Nat
  /-- The relative margin, in percent, that ends sampling. -/
  target : α
  /-- The time after which sampling ends in any case. -/
  budget : Nat
  confidence : Confidence
  deriving Repr

/-- Why settings are refused. -/
inductive SettingsError where
  | zeroWindow
  | zeroBudget
  | invalidTarget (target : Float)

/-- The text of the error. -/
def SettingsError.message : SettingsError → String
  | .zeroWindow => "sample window must be greater than zero"
  | .zeroBudget => "per-case time budget must be greater than zero"
  | .invalidTarget target =>
    "target margin of error must be a non-negative percentage, got " ++
      String.ofList (NumberStyle.message.text target)

namespace SamplingSettings

/-- The window unless another is asked for: fifty milliseconds. -/
def standardWindow : Nat := 50000000

/-- The least number of samples unless another is asked for. -/
def standardMinSamples : Nat := 5

/-- The fewest samples that bound a margin. -/
def fewestSamples : Nat := 2

/-- The target unless another is asked for, in percent. -/
def standardTarget : Float := 1.0

/-- The budget unless another is asked for: five seconds. -/
def standardBudget : Nat := 5000000000

/-- The settings unless others are asked for. -/
def standard : SamplingSettings Float :=
  ⟨standardWindow, standardMinSamples, standardTarget, standardBudget, .standard⟩

/-- The least number of samples that is enforced. -/
def enforcedMinSamples {α : Type} (settings : SamplingSettings α) : Nat :=
  max settings.minSamples fewestSamples

/-- Refuses settings that the loop cannot honor: an empty window, an empty budget, and a target that
is negative or not finite, in this order. -/
def validate (settings : SamplingSettings Float) : Except SettingsError Unit :=
  if settings.window = 0 then .error .zeroWindow
  else if settings.budget = 0 then .error .zeroBudget
  else if !settings.target.isFinite || decide (settings.target < 0.0) then
    .error (.invalidTarget settings.target)
  else .ok ()

end SamplingSettings

end PushBench
