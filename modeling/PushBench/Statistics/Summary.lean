import PushBench.Statistics.Sample
import PushBench.Statistics.Percentile
import PushBench.Statistics.Confidence

/-!
# Statistics of a case

Every sample contributes its mean time per invocation. The margin of error is the half-width of a
Student-t interval around the mean of those values; it is unbounded until there are two samples.
-/

namespace PushBench

/-- What the samples of a case say about the time of one invocation, in nanoseconds. -/
structure Statistics (α : Type) where
  sampleCount : Nat
  /-- Invocations in all samples together. -/
  iterations : Nat
  mean : α
  median : α
  least : α
  greatest : α
  standardDeviation : α
  standardError : α
  margin : α
  /-- The margin in percent of the mean. -/
  relativeMargin : α
  /-- Invocations per second. -/
  rate : α
  confidence : Confidence
  deriving Repr

namespace Statistics

variable {α : Type} [Scalar α]

/-- The statistics of no samples. -/
def empty (level : Confidence) : Statistics α where
  sampleCount := 0
  iterations := 0
  mean := (0.0 : α)
  median := (0.0 : α)
  least := (0.0 : α)
  greatest := (0.0 : α)
  standardDeviation := (0.0 : α)
  standardError := (0.0 : α)
  margin := Scalar.infinity
  relativeMargin := Scalar.infinity
  rate := (0.0 : α)
  confidence := level

/-- The sum of the squared distances of values from a center. -/
def squaredDeviations (center : α) (values : List α) : α :=
  Scalar.sum (values.map fun value ↦ (value - center) * (value - center))

/-- The standard deviation of at least two values around their mean. -/
def deviation (mean : α) (values : List α) : α :=
  Scalar.sqrt (squaredDeviations mean values / Scalar.ofNat (values.length - 1))

/-- The margin in percent of the mean: unbounded with the margin, and zero for a mean of zero. -/
def percentOfMean (margin mean : α) : α :=
  if Scalar.isInfinite margin then Scalar.infinity
  else if Scalar.lt (0.0 : α) mean then margin / mean * (100.0 : α)
  else (0.0 : α)

/-- Invocations per second at a mean time, and zero for times too short to see. -/
def perSecond (mean : α) : α :=
  if Scalar.lt (0.0 : α) mean then (1000000000.0 : α) / mean else (0.0 : α)

/-- The statistics of the periods of at least one sample. -/
def ofPeriods (iterations : Nat) (first : α) (rest : List α) (level : Confidence) :
    Statistics α :=
  let values := first :: rest
  let count := values.length
  let mean := Scalar.sum values / Scalar.ofNat count
  let spread := if count < 2 then (0.0 : α) else deviation mean values
  let error := if count < 2 then (0.0 : α) else spread / Scalar.sqrt (Scalar.ofNat count)
  let margin := if count < 2 then Scalar.infinity else error * level.critical (count - 1)
  { sampleCount := count
    iterations
    mean
    median := percentile values (50.0 : α)
    least := rest.foldl Scalar.min first
    greatest := rest.foldl Scalar.max first
    standardDeviation := spread
    standardError := error
    margin
    relativeMargin := percentOfMean margin mean
    rate := perSecond mean
    confidence := level }

/-- Invocations in all samples together. -/
def totalIterations (samples : List Sample) : Nat :=
  samples.foldl (fun total sample ↦ total + sample.iterations) 0

/-- The statistics of samples. -/
def ofSamples (samples : List Sample) (level : Confidence) : Statistics α :=
  match samples.map (Sample.period (α := α)) with
  | [] => empty level
  | first :: rest => ofPeriods (totalIterations samples) first rest level

/-- Whether the relative margin is at most `target` percent. -/
def withinMargin (statistics : Statistics α) (target : α) : Bool :=
  Scalar.le statistics.relativeMargin target

/-- The standard deviation in percent of the mean, and zero for a mean of zero. -/
def variation (statistics : Statistics Float) : Float :=
  if statistics.mean == 0.0 then 0.0
  else statistics.standardDeviation / statistics.mean * 100.0

end Statistics

end PushBench
