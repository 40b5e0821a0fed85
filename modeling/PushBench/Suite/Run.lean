import PushBench.Suite.Outcome
import PushBench.Registry

/-!
# Running a suite

Cases are measured one after the other in the order of registration. Between two cases, and before
the first, the suite asks whether it has been interrupted and whether it has been cancelled; a case
that has begun is always measured to its end.
-/

namespace PushBench

/-- A case under measurement with the clock it is timed by. -/
structure Bench : Type 1 where
  case : Case
  clock : Nat
  /-- Whether an interrupt was raised. -/
  signalled : Bool

/-- Invokes the case of a bench: the clock moves on by what the invocation charged. -/
def Bench.invoke (bench : Bench) : Except CaseError Unit × Bench :=
  let (reply, case) := bench.case.run
  (reply.answer, ⟨case, bench.clock + reply.elapsed, bench.signalled || reply.signals⟩)

/-- The subject that a case's sampler times. -/
def Bench.subject : Subject Bench := ⟨Bench.clock, Bench.invoke⟩

/-- What a suite announces while it runs. -/
inductive SuiteEvent (α : Type) where
  /-- The suite starts with a number of cases. -/
  | started (cases : Nat)
  | finished (outcome : CaseOutcome α)
  /-- The suite is over. -/
  | concluded (result : SuiteResult α)

/-- What surrounds a suite: whoever hears its events and may ask for cancellation, and the source of
interrupts. Both act on a state of type `ω`. -/
structure Surroundings (α ω : Type) where
  /-- Hears an event, and says whether the suite is to be cancelled. -/
  notify : SuiteEvent α → ω → Bool × ω
  /-- Says whether the suite was interrupted, given whether a signal was raised since the last
  question. -/
  poll : Bool → ω → Bool × ω

/-- A suite between two cases. -/
structure SuiteState (ω : Type) where
  clock : Nat
  /-- Whether cancellation has been asked for. -/
  cancelRequested : Bool
  /-- Whether a signal was raised since the source of interrupts was last asked. -/
  signalled : Bool
  outside : ω

namespace SuiteState

variable {α ω : Type}

/-- Announces an event. -/
def announce (state : SuiteState ω) (surroundings : Surroundings α ω) (event : SuiteEvent α) :
    SuiteState ω :=
  let (cancel, outside) := surroundings.notify event state.outside
  { state with cancelRequested := state.cancelRequested || cancel, outside }

/-- Asks whether the suite was interrupted. An interrupt cancels the suite. -/
def askInterrupt (state : SuiteState ω) (surroundings : Surroundings α ω) : SuiteState ω :=
  let (fired, outside) := surroundings.poll state.signalled state.outside
  { state with
    cancelRequested := state.cancelRequested || fired, signalled := false, outside }

end SuiteState

variable {α ω : Type} [Scalar α]

/-- The status of a case whose sampling came to an end. -/
def CaseStatus.ofSampling : Except CaseError (Measurement α) → CaseStatus α
  | .ok measurement => .completed measurement
  | .error error => error.toStatus

/-- Measures the case of a bench, or skips it. There is no outcome if more than `limit` samples
would be needed. -/
def Bench.measure (settings : SamplingSettings α) (limit : Nat) (bench : Bench) :
    Option (CaseOutcome α) × Bench :=
  match bench.case.skipReason with
  | some reason => (some ⟨bench.case.name, .skipped reason⟩, bench)
  | none =>
    let (answer, after) := Sampler.measure settings Bench.subject limit bench
    (answer.map fun answer ↦ ⟨bench.case.name, .ofSampling answer⟩, after)

/-- The cases of a suite that have been run. -/
structure SuitePass (α ω : Type) : Type 1 where
  outcomes : List (CaseOutcome α)
  cancelled : Bool
  /-- All cases, in the state they were left in. -/
  cases : List Case
  state : SuiteState ω

/-- Runs cases one after the other until they are done or the suite is cancelled. -/
def runCases (settings : SamplingSettings α) (limit : Nat) (surroundings : Surroundings α ω) :
    List Case → SuiteState ω → Option (SuitePass α ω)
  | [], state => some ⟨[], false, [], state⟩
  | case :: rest, state =>
    let asked := state.askInterrupt surroundings
    if asked.cancelRequested then some ⟨[], true, case :: rest, asked⟩
    else
      match Bench.measure settings limit ⟨case, asked.clock, asked.signalled⟩ with
      | (none, _) => none
      | (some outcome, bench) =>
        let next :=
          { asked with clock := bench.clock, signalled := bench.signalled }.announce surroundings
            (.finished outcome)
        (runCases settings limit surroundings rest next).map fun pass ↦
          { pass with outcomes := outcome :: pass.outcomes, cases := bench.case :: pass.cases }

/-- A suite that has been run. -/
structure SuiteRun (α ω : Type) : Type 1 where
  result : SuiteResult α
  cases : List Case
  state : SuiteState ω

/-- Runs the cases of a registry. There is no result if a case would need more than `limit`
samples. -/
def Registry.run (registry : Registry) (settings : SamplingSettings α) (limit : Nat)
    (surroundings : Surroundings α ω) (state : SuiteState ω) : Option (SuiteRun α ω) :=
  let started := state.announce surroundings (.started registry.size)
  (runCases settings limit surroundings registry.cases started).map fun pass ↦
    let result := SuiteResult.ofOutcomes pass.outcomes pass.cancelled
    ⟨result, pass.cases, pass.state.announce surroundings (.concluded result)⟩

end PushBench
