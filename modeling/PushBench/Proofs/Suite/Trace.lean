import Mathlib.Tactic.Set
import PushBench.Proofs.Sampling.Calls
import PushBench.Suite.Run

/-!
# Traces of suites

A traced suite writes down what it does: which events it announces, when it asks for interrupts, and
when it invokes the body of which case for how long. Apart from the trace it is the suite itself.
-/

namespace PushBench

universe u

/-! ## Times of invocations -/

namespace Subject

variable {ω : Type u} {subject : Subject ω}

/-- The subject that also writes down by how much every invocation moves the clock on. -/
def clocked (subject : Subject ω) : Subject (ω × List Nat) where
  now world := subject.now world.1
  invoke world :=
    let outcome := subject.invoke world.1
    (outcome.1, outcome.2, world.2 ++ [subject.now outcome.2 - subject.now world.1])

/-- Writing times down changes nothing else. The times add up to what the clock shows, and nothing
has happened while there is none. -/
def clockedSimulation (hclock : subject.ClockAdvances) (start : ω) :
    subject.clocked.Simulation subject where
  ahead := 0
  worlds world world' := world.1 = world' ∧
    subject.now world.1 = subject.now start + world.2.sum ∧ (world.2 = [] → world.1 = start)
  now_eq h := congrArg subject.now h.1
  answer_eq h := by rw [← h.1]; rfl
  worlds_invoke {world world'} h := by
    obtain ⟨rfl, hnow, -⟩ := h
    refine ⟨rfl, ?_, fun hnone ↦ absurd hnone (List.append_ne_nil_of_right_ne_nil _ (by simp))⟩
    have hadvance := hclock world.1
    dsimp only [clocked] at hadvance ⊢
    rw [List.sum_append, List.sum_singleton]
    omega

end Subject

namespace Bench

theorem subject_clockAdvances : Bench.subject.ClockAdvances := fun _ ↦ Nat.le_add_right _ _

variable {α : Type} [Scalar α]

/-- Measures the case of a bench, and says how long each invocation of its body took. -/
def measureTraced (settings : SamplingSettings α) (limit : Nat) (bench : Bench) :
    Option (CaseOutcome α) × Bench × List Nat :=
  match bench.case.skipReason with
  | some reason => (some ⟨bench.case.name, .skipped reason⟩, bench, [])
  | none =>
    let (answer, after) := Sampler.measure settings Bench.subject.clocked limit (bench, [])
    (answer.map fun answer ↦ ⟨bench.case.name, .ofSampling answer⟩, after)

theorem exists_measureTraced_eq (settings : SamplingSettings α) (limit : Nat) (bench : Bench) :
    ∃ times,
      measureTraced settings limit bench =
        ((measure settings limit bench).1, (measure settings limit bench).2, times) ∧
      (measure settings limit bench).2.clock = bench.clock + times.sum ∧
      (times = [] → (measure settings limit bench).2 = bench) := by
  unfold measureTraced measure
  cases bench.case.skipReason with
  | some reason => exact ⟨[], rfl, rfl, fun _ ↦ rfl⟩
  | none =>
    let simulation := Subject.clockedSimulation subject_clockAdvances bench
    have hworlds : simulation.worlds (bench, []) bench := ⟨rfl, rfl, fun _ ↦ rfl⟩
    have hagree := simulation.measure hworlds settings limit
    rcases hclocked : Sampler.measure settings Bench.subject.clocked limit (bench, []) with
      ⟨answer, after, times⟩
    rw [hclocked] at hagree
    obtain ⟨hanswer, hafter, hclock, hsame⟩ := hagree
    have hafter : after = (Sampler.measure settings Bench.subject limit bench).2 := hafter
    subst hafter
    refine ⟨times, ?_, hclock, hsame⟩
    dsimp only at hanswer ⊢
    rw [hanswer]

/-- What a measurement leaves behind whose invocations took some times. -/
theorem of_measureTraced {settings : SamplingSettings α} {limit : Nat} {bench after : Bench}
    {answer : Option (CaseOutcome α)} {times : List Nat}
    (h : measureTraced settings limit bench = (answer, after, times)) :
    measure settings limit bench = (answer, after) ∧ after.clock = bench.clock + times.sum ∧
      (times = [] → after = bench) := by
  obtain ⟨taken, htraced, hclock, hsame⟩ := exists_measureTraced_eq settings limit bench
  rw [htraced] at h
  cases h
  exact ⟨rfl, hclock, hsame⟩

end Bench

/-! ## Actions -/

/-- What a suite does. -/
inductive SuiteAction (α : Type) where
  /-- An event is announced, and the answer says whether the suite is to be cancelled. -/
  | announced (event : SuiteEvent α) (cancels : Bool)
  /-- The source of interrupts is asked, and the answer says whether it fired. -/
  | asked (fired : Bool)
  /-- The body of the case in a place is invoked. -/
  | invoked (place : Nat) (elapsed : Nat)

namespace SuiteAction

variable {α : Type}

/-- The invocations of the body of a case. -/
def invocations (place : Nat) (times : List Nat) : List (SuiteAction α) :=
  times.map (.invoked place)

/-- What is done with a case that is run: a question that is answered by no, the invocations of its
body, and the announcement of its outcome. -/
def round (place : Nat) (times : List Nat) (outcome : CaseOutcome α) (cancels : Bool) :
    List (SuiteAction α) :=
  .asked false :: invocations place times ++ [.announced (.finished outcome) cancels]

end SuiteAction

/-- What has happened in a suite. -/
structure SuiteHistory (α : Type) where
  /-- The events that were announced, in order. -/
  events : List (SuiteEvent α)
  /-- How often the source of interrupts was asked. -/
  questions : Nat
  /-- Whether cancellation was requested. -/
  requested : Bool
  clock : Nat

namespace SuiteHistory

variable {α : Type}

/-- What has happened before a suite starts in a state. -/
def ofState {ω : Type} (state : SuiteState ω) : SuiteHistory α :=
  ⟨[], 0, state.cancelRequested, state.clock⟩

/-- What has happened after one more action. -/
def after (history : SuiteHistory α) : SuiteAction α → SuiteHistory α
  | .announced event cancels =>
    { history with
      events := history.events ++ [event], requested := history.requested || cancels }
  | .asked fired =>
    { history with
      questions := history.questions + 1, requested := history.requested || fired }
  | .invoked _ elapsed => { history with clock := history.clock + elapsed }

/-- What has happened after some more actions. -/
def afterAll (history : SuiteHistory α) (actions : List (SuiteAction α)) : SuiteHistory α :=
  actions.foldl after history

variable (history : SuiteHistory α)

@[simp]
theorem afterAll_nil : history.afterAll [] = history := rfl

@[simp]
theorem afterAll_cons (action : SuiteAction α) (actions : List (SuiteAction α)) :
    history.afterAll (action :: actions) = (history.after action).afterAll actions := rfl

@[simp]
theorem afterAll_append (first second : List (SuiteAction α)) :
    history.afterAll (first ++ second) = (history.afterAll first).afterAll second :=
  List.foldl_append

@[simp]
theorem afterAll_invocations (place : Nat) (times : List Nat) :
    history.afterAll (SuiteAction.invocations place times) =
      { history with clock := history.clock + times.sum } := by
  induction times generalizing history with
  | nil => rfl
  | cons elapsed times ih =>
    rw [SuiteAction.invocations, List.map_cons, afterAll_cons, ← SuiteAction.invocations, ih]
    simp [after, Nat.add_assoc]

@[simp]
theorem afterAll_round (place : Nat) (times : List Nat) (outcome : CaseOutcome α)
    (cancels : Bool) :
    history.afterAll (SuiteAction.round place times outcome cancels) =
      { events := history.events ++ [.finished outcome]
        questions := history.questions + 1
        requested := history.requested || cancels
        clock := history.clock + times.sum } := by
  simp [SuiteAction.round, after]

end SuiteHistory

/-! ## Traced suites -/

variable {α ω : Type} [Scalar α]

/-- Runs cases one after the other and writes down what is done. The first case has a given
place. -/
def runCasesTraced (settings : SamplingSettings α) (limit : Nat)
    (surroundings : Surroundings α ω) :
    Nat → List Case → SuiteState ω → Option (SuitePass α ω × List (SuiteAction α))
  | _, [], state => some (⟨[], false, [], state⟩, [])
  | place, case :: rest, state =>
    let fired := (surroundings.poll state.signalled state.outside).1
    let asked := state.askInterrupt surroundings
    if asked.cancelRequested then some (⟨[], true, case :: rest, asked⟩, [.asked fired])
    else
      match Bench.measureTraced settings limit ⟨case, asked.clock, asked.signalled⟩ with
      | (none, _) => none
      | (some outcome, bench, times) =>
        let cancels := (surroundings.notify (.finished outcome) asked.outside).1
        let next :=
          { asked with clock := bench.clock, signalled := bench.signalled }.announce surroundings
            (.finished outcome)
        (runCasesTraced settings limit surroundings (place + 1) rest next).map
          fun (pass, actions) ↦
            ({ pass with outcomes := outcome :: pass.outcomes, cases := bench.case :: pass.cases },
              .asked fired :: SuiteAction.invocations place times ++
                .announced (.finished outcome) cancels :: actions)

/-- Runs the cases of a registry and writes down what is done. -/
def Registry.runTraced (registry : Registry) (settings : SamplingSettings α) (limit : Nat)
    (surroundings : Surroundings α ω) (state : SuiteState ω) :
    Option (SuiteRun α ω × List (SuiteAction α)) :=
  let start := SuiteEvent.started registry.size
  let cancelsStart := (surroundings.notify start state.outside).1
  let started := state.announce surroundings start
  (runCasesTraced settings limit surroundings 0 registry.cases started).map fun (pass, actions) ↦
    let result := SuiteResult.ofOutcomes pass.outcomes pass.cancelled
    let cancelsEnd := (surroundings.notify (.concluded result) pass.state.outside).1
    (⟨result, pass.cases, pass.state.announce surroundings (.concluded result)⟩,
      .announced start cancelsStart :: actions ++ [.announced (.concluded result) cancelsEnd])

section

variable {settings : SamplingSettings α} {limit : Nat} {surroundings : Surroundings α ω}

/-- The ways to run cases of which a given one comes first: the suite stops before it, or the case
makes a round before the others are run. -/
theorem runCasesTraced_cons_cases {place : Nat} {case : Case} {rest : List Case}
    {state : SuiteState ω} {pass : SuitePass α ω} {actions : List (SuiteAction α)}
    (h : runCasesTraced settings limit surroundings place (case :: rest) state =
      some (pass, actions)) :
    let fired := (surroundings.poll state.signalled state.outside).1
    let asked := state.askInterrupt surroundings
    (asked.cancelRequested = true ∧ pass = ⟨[], true, case :: rest, asked⟩ ∧
        actions = [.asked fired]) ∨
      ∃ outcome bench times later laterActions,
        asked.cancelRequested = false ∧
        Bench.measureTraced settings limit ⟨case, asked.clock, asked.signalled⟩ =
          (some outcome, bench, times) ∧
        runCasesTraced settings limit surroundings (place + 1) rest
            ({ asked with clock := bench.clock, signalled := bench.signalled }.announce surroundings
              (.finished outcome)) = some (later, laterActions) ∧
        pass = { later with
                 outcomes := outcome :: later.outcomes, cases := bench.case :: later.cases } ∧
        actions = .asked fired :: SuiteAction.invocations place times ++
          .announced (.finished outcome)
            (surroundings.notify (.finished outcome) asked.outside).1 :: laterActions := by
  rw [runCasesTraced] at h
  dsimp only at h ⊢
  split at h
  next hstop =>
    cases h
    exact .inl ⟨hstop, rfl, rfl⟩
  next hgo =>
    split at h
    next => cases h
    next outcome bench times hmeasure =>
      obtain ⟨⟨later, laterActions⟩, hlater, hpair⟩ := Option.map_eq_some_iff.mp h
      obtain ⟨rfl, rfl⟩ := Prod.mk.inj hpair
      exact .inr ⟨outcome, bench, times, later, laterActions, Bool.eq_false_iff.mpr hgo, hmeasure,
        hlater, rfl, rfl⟩

end

/-! ## What is left without the trace -/

section

variable (settings : SamplingSettings α) (limit : Nat) (surroundings : Surroundings α ω)

/-- Without the trace, cases are run as they are without writing anything down. -/
theorem runCasesTraced_map_fst (place : Nat) (cases : List Case) (state : SuiteState ω) :
    (runCasesTraced settings limit surroundings place cases state).map Prod.fst =
      runCases settings limit surroundings cases state := by
  induction cases generalizing place state with
  | nil => rfl
  | cons case rest ih =>
    rw [runCasesTraced, runCases]
    dsimp only
    set asked := state.askInterrupt surroundings
    by_cases hstop : asked.cancelRequested
    · rw [if_pos hstop, if_pos hstop]
      rfl
    · rw [if_neg hstop, if_neg hstop]
      obtain ⟨times, htraced, -⟩ :=
        Bench.exists_measureTraced_eq settings limit ⟨case, asked.clock, asked.signalled⟩
      rw [htraced]
      rcases Bench.measure settings limit ⟨case, asked.clock, asked.signalled⟩ with ⟨answer, bench⟩
      cases answer with
      | none => rfl
      | some outcome =>
        dsimp only
        rw [← ih (place + 1), Option.map_map, Option.map_map]
        rfl

/-- Without the trace, a suite is run as it is without writing anything down. -/
theorem Registry.runTraced_map_fst (registry : Registry) (state : SuiteState ω) :
    (registry.runTraced settings limit surroundings state).map Prod.fst =
      registry.run settings limit surroundings state := by
  simp only [runTraced, run, ← runCasesTraced_map_fst settings limit surroundings 0,
    Option.map_map]
  rfl

end

end PushBench
