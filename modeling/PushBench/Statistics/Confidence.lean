import PushBench.Number.Scalar
import PushBench.Number.Style

/-!
# Confidence levels

Margins of error are two-sided Student-t intervals at one of three levels. The critical values are
tabulated for thirty degrees of freedom; beyond them the value of the normal distribution is used.
-/

namespace PushBench

/-- A supported confidence level. -/
inductive Confidence where
  | ninety
  | ninetyFive
  | ninetyNine
  deriving DecidableEq, Repr, Inhabited

/-- A number that is no supported level. -/
structure UnsupportedConfidence where
  value : Float

/-- The text of the error. -/
def UnsupportedConfidence.message (error : UnsupportedConfidence) : String :=
  "unsupported confidence level " ++ String.ofList (NumberStyle.message.text error.value) ++
    " (expected 0.90, 0.95 or 0.99)"

namespace Confidence

/-- The level that is used unless another is asked for. -/
def standard : Confidence := .ninetyFive

/-- The level in percent. -/
def percent : Confidence → Nat
  | .ninety => 90
  | .ninetyFive => 95
  | .ninetyNine => 99

/-- The level as it is displayed. -/
def text (level : Confidence) : String := toString level.percent ++ "%"

/-- The level as a fraction of one. -/
def fraction : Confidence → Float
  | .ninety => 0.90
  | .ninetyFive => 0.95
  | .ninetyNine => 0.99

/-- The level that a fraction stands for: the first that is less than `1e-9` away. -/
def ofFraction (value : Float) : Except UnsupportedConfidence Confidence :=
  match [ninety, ninetyFive, ninetyNine].find?
      (fun level ↦ decide ((value - level.fraction).abs < 1e-9)) with
  | some level => .ok level
  | none => .error ⟨value⟩

variable {α : Type} [Scalar α]

/-- The critical values for one, two, ..., thirty degrees of freedom. -/
def criticalTable : Confidence → List α
  | .ninety =>
    [6.314, 2.920, 2.353, 2.132, 2.015, 1.943, 1.895, 1.860, 1.833, 1.812,
      1.796, 1.782, 1.771, 1.761, 1.753, 1.746, 1.740, 1.734, 1.729, 1.725,
      1.721, 1.717, 1.714, 1.711, 1.708, 1.706, 1.703, 1.701, 1.699, 1.697]
  | .ninetyFive =>
    [12.706, 4.303, 3.182, 2.776, 2.571, 2.447, 2.365, 2.306, 2.262, 2.228,
      2.201, 2.179, 2.160, 2.145, 2.131, 2.120, 2.110, 2.101, 2.093, 2.086,
      2.080, 2.074, 2.069, 2.064, 2.060, 2.056, 2.052, 2.048, 2.045, 2.042]
  | .ninetyNine =>
    [63.657, 9.925, 5.841, 4.604, 4.032, 3.707, 3.499, 3.355, 3.250, 3.169,
      3.106, 3.055, 3.012, 2.977, 2.947, 2.921, 2.898, 2.878, 2.861, 2.845,
      2.831, 2.819, 2.807, 2.797, 2.787, 2.779, 2.771, 2.763, 2.756, 2.750]

/-- The critical value of the normal distribution. -/
def normalCritical : Confidence → α
  | .ninety => 1.645
  | .ninetyFive => 1.96
  | .ninetyNine => 2.576

/-- The critical value for a number of degrees of freedom. None counts as one. -/
def critical (level : Confidence) (freedom : Nat) : α :=
  level.criticalTable.getD (freedom - 1) level.normalCritical

end Confidence

end PushBench
