import PushBench.Suite.Outcome
import PushBench.Report.Timestamp

/-!
# Reports

A report is what a suite came to, together with how it was run, in a form that is written to the
console or to a file. It has one entry per outcome, in the same order.
-/

namespace PushBench

/-- The version of the layout of reports. -/
def reportSchema : Nat := 1

/-- The version of the program that reports name. -/
def programVersion : String := "0.1.0"

/-- How a suite was run, as reports tell it. Times are in nanoseconds. -/
structure ReportSettings where
  /-- Pushes per invocation. -/
  len : Nat
  window : Nat
  minSamples : Nat
  target : Float
  budget : Nat
  /-- The confidence level as a fraction of one. -/
  confidence : Float
  deriving Repr

/-- The settings of a run of `len` pushes per invocation. -/
def ReportSettings.ofSampling (len : Nat) (settings : SamplingSettings Float) : ReportSettings :=
  ⟨len, settings.window, settings.minSamples, settings.target, settings.budget,
    settings.confidence.fraction⟩

/-- What identifies a report. -/
structure ReportHeader where
  schema : Nat
  version : String
  timestamp : Timestamp
  settings : ReportSettings
  deriving Repr

/-! ## Entries -/

/-- The states that entries are reported in. -/
inductive EntryStatus where
  /-- The margin came within its target. -/
  | converged
  /-- The case was measured, but its budget was spent first. -/
  | lowConfidence
  | failed
  | skipped
  deriving DecidableEq, Repr

/-- The state of a measured case. -/
def EntryStatus.ofConvergence : Convergence → EntryStatus
  | .converged => .converged
  | .budgetExhausted => .lowConfidence

/-- The measured numbers of a case, times in nanoseconds. -/
structure Metrics where
  samples : Nat
  iterations : Nat
  mean : Float
  median : Float
  least : Float
  greatest : Float
  standardDeviation : Float
  /-- The margin of error, unless it is unbounded. -/
  margin : Option Float
  /-- The margin of error in percent of the mean, unless it is unbounded. -/
  relativeMargin : Option Float
  rate : Float
  confidence : Float
  /-- Time spent on sampling. -/
  elapsed : Nat
  deriving Repr

/-- A number, if it is finite. -/
def finite? (x : Float) : Option Float := if x.isFinite then some x else none

/-- The numbers of a measurement. -/
def Metrics.ofMeasurement (measurement : Measurement Float) : Metrics :=
  let statistics := measurement.statistics
  { samples := statistics.sampleCount
    iterations := statistics.iterations
    mean := statistics.mean
    median := statistics.median
    least := statistics.least
    greatest := statistics.greatest
    standardDeviation := statistics.standardDeviation
    margin := finite? statistics.margin
    relativeMargin := finite? statistics.relativeMargin
    rate := statistics.rate
    confidence := statistics.confidence.fraction
    elapsed := measurement.elapsed }

/-- How a case failed. -/
structure FailureNote where
  /-- The displayed category of the failure. -/
  kind : String
  message : String
  deriving DecidableEq, Repr

/-- What is reported about one case. -/
structure ReportEntry where
  name : String
  status : EntryStatus
  metrics : Option Metrics
  failure : Option FailureNote
  skipReason : Option String
  deriving Repr

/-- The entry of an outcome. -/
def ReportEntry.ofOutcome (outcome : CaseOutcome Float) : ReportEntry :=
  match outcome.status with
  | .completed measurement =>
    ⟨outcome.name, .ofConvergence measurement.convergence, some (.ofMeasurement measurement),
      none, none⟩
  | .failed kind message => ⟨outcome.name, .failed, none, some ⟨kind.text, message⟩, none⟩
  | .skipped reason => ⟨outcome.name, .skipped, none, none, some reason⟩

/-! ## Totals -/

/-- The totals over all entries. -/
structure ReportSummary where
  total : Nat
  converged : Nat
  lowConfidence : Nat
  failed : Nat
  skipped : Nat
  /-- Milliseconds spent on sampling. -/
  samplingTime : Float
  deriving Repr

namespace ReportSummary

/-- How many entries have a status. -/
def count (entries : List ReportEntry) (status : EntryStatus) : Nat :=
  entries.countP fun entry ↦ entry.status == status

/-- Milliseconds that an entry spent on sampling. -/
def milliseconds (metrics : Metrics) : Float := Float.ofNat metrics.elapsed / 1000000.0

/-- The totals of entries. -/
def ofEntries (entries : List ReportEntry) : ReportSummary where
  total := entries.length
  converged := count entries .converged
  lowConfidence := count entries .lowConfidence
  failed := count entries .failed
  skipped := count entries .skipped
  samplingTime := Scalar.sum ((entries.filterMap ReportEntry.metrics).map milliseconds)

end ReportSummary

/-! ## The whole report -/

/-- What a suite came to and how it was run. -/
structure Report where
  header : ReportHeader
  entries : List ReportEntry
  /-- The name of the fastest completed case. -/
  fastest : Option String
  /-- Whether the suite stopped before its last case. -/
  cancelled : Bool
  summary : ReportSummary
  deriving Repr

/-- The report of a suite that was over at a time. -/
def Report.ofResult (result : SuiteResult Float) (settings : ReportSettings)
    (timestamp : Timestamp) : Report :=
  let entries := result.outcomes.map ReportEntry.ofOutcome
  { header := ⟨reportSchema, programVersion, timestamp, settings⟩
    entries
    fastest := result.fastest
    cancelled := result.cancelled
    summary := .ofEntries entries }

end PushBench
