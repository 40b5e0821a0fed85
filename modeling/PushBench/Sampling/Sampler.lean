import PushBench.Sampling.Settings
import PushBench.Case

/-!
# The sampling loop

A case is invoked once to size the first batch. Then batch after batch is timed as a whole, each
sized by the one before to fill the window, until the relative margin is within the target or the
budget is spent.
-/

namespace PushBench

/-- How sampling ended. -/
inductive Convergence where
  /-- The relative margin came within the target. -/
  | converged
  /-- The budget was spent first. -/
  | budgetExhausted
  deriving DecidableEq, Repr

/-- How sampling ended, as it is written in JSON. -/
def Convergence.tag : Convergence → String
  | .converged => "converged"
  | .budgetExhausted => "budget-exhausted"

/-- The result of sampling one case. -/
structure Measurement (α : Type) where
  statistics : Statistics α
  /-- The samples in the order in which they were taken. -/
  samples : List Sample
  convergence : Convergence
  /-- Nanoseconds from before the first batch to the end of sampling. -/
  elapsed : Nat
  deriving Repr

/-- Whether the target was missed. -/
def Measurement.isLowConfidence {α : Type} (measurement : Measurement α) : Bool :=
  measurement.convergence == .budgetExhausted

/-- What a sampler times: a world that has a clock and in which a body can be invoked. -/
structure Subject (ω : Type u) where
  now : ω → Nat
  invoke : ω → Except CaseError Unit × ω

namespace Subject

variable {ω : Type u}

/-- Invokes a body `count` times, or until it fails. -/
def invokeTimes (subject : Subject ω) : Nat → ω → Except CaseError Unit × ω
  | 0, world => (.ok (), world)
  | count + 1, world =>
    match subject.invoke world with
    | (.ok (), world) => subject.invokeTimes count world
    | (.error error, world) => (.error error, world)

end Subject

/-- The samples of one case so far. -/
structure Sampler (α : Type) where
  settings : SamplingSettings α
  /-- The samples in the order in which they were taken. -/
  samples : List Sample
  statistics : Statistics α
  /-- How many invocations the next batch has. -/
  batch : Nat
  /-- When the first batch started. -/
  startedAt : Option Nat

namespace Sampler

variable {α : Type} [Scalar α] {ω : Type u}

/-- A sampler without samples. -/
def start (settings : SamplingSettings α) : Sampler α :=
  ⟨settings, [], .empty settings.confidence, 1, none⟩

/-- How many invocations of a period fill the window: at least one, and one if the clock cannot
resolve the period. -/
def batchFor (settings : SamplingSettings α) (period : α) : Nat :=
  if Scalar.le period (0.0 : α) then 1
  else max (Scalar.ceil (Scalar.ofNat settings.window / period)) 1

/-- The sampler with its next batch sized by a period. -/
def sizedBy (sampler : Sampler α) (period : α) : Sampler α :=
  { sampler with batch := batchFor sampler.settings period }

/-- The sampler after one more sample: the statistics are those of all samples, and the next batch
is sized by the new one. -/
def record (sampler : Sampler α) (sample : Sample) : Sampler α :=
  let samples := sampler.samples ++ [sample]
  { sampler with
    samples
    statistics := .ofSamples samples sampler.settings.confidence }.sizedBy sample.period

/-- The sampler after a batch was started at a time. Only the first start is kept. -/
def startingAt (sampler : Sampler α) (time : Nat) : Sampler α :=
  { sampler with startedAt := some (sampler.startedAt.getD time) }

/-- Nanoseconds since the first batch started, and zero before. -/
def elapsed (sampler : Sampler α) (now : Nat) : Nat :=
  match sampler.startedAt with
  | some time => now - time
  | none => 0

/-- Invokes the body once to size the first batch. -/
def warmUp (sampler : Sampler α) (subject : Subject ω) (world : ω) :
    Except CaseError Unit × Sampler α × ω :=
  match subject.invoke world with
  | (.error error, after) => (.error error, sampler, after)
  | (.ok (), after) =>
    (.ok (), sampler.sizedBy (Scalar.ofNat (subject.now after - subject.now world)), after)

/-- Times one batch. -/
def takeSample (sampler : Sampler α) (subject : Subject ω) (world : ω) :
    Except CaseError Unit × Sampler α × ω :=
  let started := sampler.startingAt (subject.now world)
  match subject.invokeTimes sampler.batch world with
  | (.error error, after) => (.error error, started, after)
  | (.ok (), after) =>
    (.ok (), started.record (.ofBatch (subject.now after - subject.now world) sampler.batch), after)

/-- Whether and how sampling is over at a time. Reaching the target comes first. -/
def convergence (sampler : Sampler α) (now : Nat) : Option Convergence :=
  if sampler.settings.enforcedMinSamples ≤ sampler.samples.length ∧
      sampler.statistics.withinMargin sampler.settings.target then some .converged
  else if sampler.settings.budget ≤ sampler.elapsed now then some .budgetExhausted
  else none

/-- The measurement of a sampler at a time. -/
def finish (sampler : Sampler α) (convergence : Convergence) (now : Nat) : Measurement α :=
  ⟨sampler.statistics, sampler.samples, convergence, sampler.elapsed now⟩

/-- Takes samples until sampling is over or the body fails. There is no answer if more than `limit`
samples would be needed. -/
def sampleUntilOver (subject : Subject ω) :
    Nat → Sampler α → ω → Option (Except CaseError (Measurement α)) × ω
  | 0, _, world => (none, world)
  | limit + 1, sampler, world =>
    match sampler.takeSample subject world with
    | (.error error, _, after) => (some (.error error), after)
    | (.ok (), sampler, after) =>
      match sampler.convergence (subject.now after) with
      | some convergence => (some (.ok (sampler.finish convergence (subject.now after))), after)
      | none => sampleUntilOver subject limit sampler after

/-- The whole loop: warming up, then samples until sampling is over. -/
def measure (settings : SamplingSettings α) (subject : Subject ω) (limit : Nat) (world : ω) :
    Option (Except CaseError (Measurement α)) × ω :=
  match (start settings).warmUp subject world with
  | (.error error, _, after) => (some (.error error), after)
  | (.ok (), sampler, after) => sampleUntilOver subject limit sampler after

end Sampler

end PushBench
