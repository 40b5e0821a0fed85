import Mathlib.Tactic.Set
import PushBench.Proofs.Suite.Trace

/-!
# Executions of suites

What surrounds a suite is a system of its own: it hears an event or is asked for an interrupt, gives
an answer, and goes on from the state that the answer leaves it in. The trace of a suite is an
execution of both together, from the state that the suite starts in to the one it ends in.
-/

namespace PushBench

variable {α ω : Type}

/-! ## Steps -/

/-- An action that a suite takes in some surroundings, between the states before and after it. -/
inductive Surroundings.Step (surroundings : Surroundings α ω) :
    SuiteState ω → SuiteAction α → SuiteState ω → Prop where
  /-- Whoever hears an event says whether the suite is to be cancelled. -/
  | announced {state : SuiteState ω} {event : SuiteEvent α} {cancels : Bool} {outside : ω}
    (hanswer : surroundings.notify event state.outside = (cancels, outside)) :
    surroundings.Step state (.announced event cancels)
      { state with cancelRequested := state.cancelRequested || cancels, outside }
  /-- The source of interrupts is told whether a signal was raised, and that is settled with its
  answer. -/
  | asked {state : SuiteState ω} {fired : Bool} {outside : ω}
    (hanswer : surroundings.poll state.signalled state.outside = (fired, outside)) :
    surroundings.Step state (.asked fired)
      { state with
        cancelRequested := state.cancelRequested || fired, signalled := false, outside }
  /-- An invocation takes its time, may raise a signal, and touches nothing else. -/
  | invoked {state : SuiteState ω} (place elapsed : Nat) {raised : Bool}
    (hkept : state.signalled = true → raised = true) :
    surroundings.Step state (.invoked place elapsed)
      { state with clock := state.clock + elapsed, signalled := raised }

/-- Actions that a suite takes one after the other. -/
inductive Surroundings.Execution (surroundings : Surroundings α ω) :
    SuiteState ω → List (SuiteAction α) → SuiteState ω → Prop where
  | nil (state : SuiteState ω) : surroundings.Execution state [] state
  | cons {state next last : SuiteState ω} {action : SuiteAction α} {actions : List (SuiteAction α)}
    (hstep : surroundings.Step state action next)
    (hrest : surroundings.Execution next actions last) :
    surroundings.Execution state (action :: actions) last

/-- What is known of a state by what has happened before it. -/
structure SuiteHistory.LeadsTo (history : SuiteHistory α) (state : SuiteState ω) : Prop where
  requested_eq : history.requested = state.cancelRequested
  clock_eq : history.clock = state.clock

theorem SuiteHistory.ofState_leadsTo (state : SuiteState ω) :
    (ofState state : SuiteHistory α).LeadsTo state :=
  ⟨rfl, rfl⟩

theorem SuiteHistory.LeadsTo.eq {history : SuiteHistory α} {state : SuiteState ω}
    (h : history.LeadsTo state) :
    history = ⟨history.events, history.questions, state.cancelRequested, state.clock⟩ := by
  rw [← h.requested_eq, ← h.clock_eq]

namespace Surroundings

variable {surroundings : Surroundings α ω} {state next last : SuiteState ω}
  {action : SuiteAction α} {first second : List (SuiteAction α)} {history : SuiteHistory α}

theorem step_announce (surroundings : Surroundings α ω) (state : SuiteState ω)
    (event : SuiteEvent α) :
    surroundings.Step state (.announced event (surroundings.notify event state.outside).1)
      (state.announce surroundings event) :=
  .announced rfl

theorem step_askInterrupt (surroundings : Surroundings α ω) (state : SuiteState ω) :
    surroundings.Step state (.asked (surroundings.poll state.signalled state.outside).1)
      (state.askInterrupt surroundings) :=
  .asked rfl

/-- One more action leads on from a state as it leads on from what has happened before it. -/
theorem Step.leadsTo (h : surroundings.Step state action next) (hbefore : history.LeadsTo state) :
    (history.after action).LeadsTo next := by
  obtain ⟨hrequested, hclock⟩ := hbefore
  cases h with
  | announced hanswer => exact ⟨congrArg (· || _) hrequested, hclock⟩
  | asked hanswer => exact ⟨congrArg (· || _) hrequested, hclock⟩
  | invoked place elapsed hkept => exact ⟨hrequested, congrArg (· + elapsed) hclock⟩

namespace Execution

theorem append (hfirst : surroundings.Execution state first next)
    (hsecond : surroundings.Execution next second last) :
    surroundings.Execution state (first ++ second) last := by
  induction hfirst with
  | nil state => exact hsecond
  | cons hstep hrest ih => exact .cons hstep (ih hsecond)

theorem leadsTo (h : surroundings.Execution state first last) (hbefore : history.LeadsTo state) :
    (history.afterAll first).LeadsTo last := by
  induction h generalizing history with
  | nil state => exact hbefore
  | cons hstep hrest ih => exact ih (hstep.leadsTo hbefore)

/-- Invocations take their times, and only where there is one a signal can be raised. -/
theorem invocations (place : Nat) {times : List Nat} {raised : Bool}
    (hkept : state.signalled = true → raised = true)
    (hnone : times = [] → raised = state.signalled) :
    surroundings.Execution state (SuiteAction.invocations place times)
      { state with clock := state.clock + times.sum, signalled := raised } := by
  induction times generalizing state with
  | nil =>
    rw [hnone rfl]
    exact .nil state
  | cons elapsed times ih =>
    -- the first invocation raises the signal, and the others leave it raised
    let next : SuiteState ω := { state with clock := state.clock + elapsed, signalled := raised }
    have hrest : surroundings.Execution next (SuiteAction.invocations place times)
        { next with clock := next.clock + times.sum, signalled := raised } := by
      apply ih
      · exact id
      · exact fun _ ↦ rfl
    rw [List.sum_cons, ← Nat.add_assoc]
    exact .cons (.invoked place elapsed hkept) hrest

end Execution

end Surroundings

/-! ## Traces as executions -/

variable [Scalar α] {settings : SamplingSettings α} {limit : Nat}
  {surroundings : Surroundings α ω} {state : SuiteState ω}

theorem execution_of_runCasesTraced {place : Nat} {cases : List Case} {pass : SuitePass α ω}
    {actions : List (SuiteAction α)}
    (h : runCasesTraced settings limit surroundings place cases state = some (pass, actions)) :
    surroundings.Execution state actions pass.state := by
  induction cases generalizing place state pass actions with
  | nil =>
    cases h
    exact .nil state
  | cons case rest ih =>
    have hasked := surroundings.step_askInterrupt state
    rcases runCasesTraced_cons_cases h with
      ⟨-, rfl, rfl⟩ | ⟨outcome, bench, times, later, laterActions, -, hmeasure, hlater, rfl, rfl⟩
    · exact .cons hasked (.nil _)
    · set asked := state.askInterrupt surroundings
      obtain ⟨-, hclock, hnone⟩ := Bench.of_measureTraced hmeasure
      -- the question has settled the signals of before
      have hsettled : asked.signalled = false := rfl
      have hinvoked : surroundings.Execution asked (SuiteAction.invocations place times)
          { asked with clock := bench.clock, signalled := bench.signalled } := by
        rw [hclock]
        apply Surroundings.Execution.invocations
        · simp [hsettled]
        · intro hempty
          rw [hnone hempty]
      have hfinished := surroundings.step_announce
        { asked with clock := bench.clock, signalled := bench.signalled } (.finished outcome)
      have hround := Surroundings.Execution.cons hasked hinvoked
      have hrest := ih hlater
      exact hround.append (.cons hfinished hrest)

/-- The trace of a suite is an execution from the state it starts in to the one it ends in. -/
theorem Registry.execution_of_runTraced {registry : Registry} {run : SuiteRun α ω}
    {trace : List (SuiteAction α)}
    (h : registry.runTraced settings limit surroundings state = some (run, trace)) :
    surroundings.Execution state trace run.state := by
  obtain ⟨⟨pass, actions⟩, hpass, hpair⟩ := Option.map_eq_some_iff.mp h
  obtain ⟨rfl, rfl⟩ := Prod.mk.inj hpair
  have hstarted := surroundings.step_announce state (.started registry.size)
  have hcases := execution_of_runCasesTraced hpass
  have hconcluded := surroundings.step_announce pass.state
    (.concluded (.ofOutcomes pass.outcomes pass.cancelled))
  have hopening := Surroundings.Execution.cons hstarted hcases
  exact hopening.append (.cons hconcluded (.nil _))

end PushBench
