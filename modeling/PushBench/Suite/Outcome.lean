import PushBench.Sampling.Sampler

/-!
# Outcomes of a suite

What became of every case, and which of them was the fastest.
-/

namespace PushBench

/-- What became of a case. -/
inductive CaseStatus (α : Type) where
  | completed (measurement : Measurement α)
  | failed (kind : FailureKind) (message : String)
  | skipped (reason : String)
  deriving Repr

/-- The outcome of a case. -/
structure CaseOutcome (α : Type) where
  name : String
  status : CaseStatus α
  deriving Repr

namespace CaseOutcome

variable {α : Type}

/-- The measurement of a completed case. -/
def measurement? (outcome : CaseOutcome α) : Option (Measurement α) :=
  match outcome.status with
  | .completed measurement => some measurement
  | _ => none

/-- Whether the case failed. -/
def isFailed (outcome : CaseOutcome α) : Bool :=
  match outcome.status with
  | .failed _ _ => true
  | _ => false

/-- Invocations per second of a completed case. -/
def rate? (outcome : CaseOutcome α) : Option α :=
  outcome.measurement?.map fun measurement ↦ measurement.statistics.rate

end CaseOutcome

/-- How a case that failed with an error is reported. A panic is reported by its message alone. -/
def CaseError.toStatus {α : Type} (error : CaseError) : CaseStatus α :=
  match error with
  | .panicked message => .failed .panicked message
  | other => .failed other.kind other.message

/-- The outcomes of a suite. -/
structure SuiteResult (α : Type) where
  /-- The outcomes in the order of registration. -/
  outcomes : List (CaseOutcome α)
  /-- The name of the fastest completed case. -/
  fastest : Option String
  /-- Whether the suite stopped before its last case. -/
  cancelled : Bool
  deriving Repr

namespace SuiteResult

variable {α : Type} [Scalar α]

/-- The faster of the best case so far and one more outcome. A case that is not faster does not take
the place of an earlier one. -/
def faster (best : Option (String × α)) (outcome : CaseOutcome α) : Option (String × α) :=
  match outcome.rate?, best with
  | none, _ => best
  | some rate, some (_, bestRate) =>
    if Scalar.le rate bestRate then best else some (outcome.name, rate)
  | some rate, none => some (outcome.name, rate)

/-- The result of a suite with given outcomes. -/
def ofOutcomes (outcomes : List (CaseOutcome α)) (cancelled : Bool) : SuiteResult α :=
  ⟨outcomes, (outcomes.foldl faster none).map Prod.fst, cancelled⟩

omit [Scalar α]

/-- The first outcome of a name. -/
def get? (result : SuiteResult α) (name : String) : Option (CaseOutcome α) :=
  result.outcomes.find? (·.name == name)

/-- Whether a case failed. -/
def hasFailures (result : SuiteResult α) : Bool := result.outcomes.any CaseOutcome.isFailed

/-- How many cases failed. -/
def failureCount (result : SuiteResult α) : Nat := result.outcomes.countP CaseOutcome.isFailed

end SuiteResult

end PushBench
