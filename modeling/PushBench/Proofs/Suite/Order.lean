import PushBench.Proofs.Suite.Execution
import PushBench.Proofs.Suite.Isolation
import PushBench.Proofs.Suite.Surroundings

/-!
# The order of a suite

A suite announces its start, runs its cases one after the other, and announces its end. Before every
case it asks for interrupts, and it stops at the first case before which cancellation was requested.
Nothing is done with the cases after that. All answers are those of whoever surrounds the suite, who
is left with what was announced and asked.
-/

namespace PushBench

variable {α : Type}

namespace SuiteAction

/-- The actions of a suite between its start and its end, from the case in a place on: given whether
cancellation was requested before, the outcomes that are reached, and whether the suite is
cancelled. -/
inductive Rounds : Nat → Bool → List (CaseOutcome α) → Bool → List (SuiteAction α) → Prop where
  | done (place : Nat) (requested : Bool) : Rounds place requested [] false []
  | stop (place : Nat) {requested fired : Bool} (hstop : (requested || fired) = true) :
    Rounds place requested [] true [.asked fired]
  | round {place : Nat} {cancels cancelled : Bool} {outcomes : List (CaseOutcome α)}
    {actions : List (SuiteAction α)} (times : List Nat) (outcome : CaseOutcome α)
    (hrest : Rounds (place + 1) cancels outcomes cancelled actions) :
    Rounds place false (outcome :: outcomes) cancelled
      (round place times outcome cancels ++ actions)

/-- An action that is taken in a suite of `size` cases, which comes to given outcomes, after what
has happened so far. A question comes when all cases before it are done, and cancellation is
requested from then on iff the suite stops there. A body is invoked between the question before its
case and the announcement of its outcome, and only if cancellation was not requested. -/
def InOrder (size : Nat) (outcomes : List (CaseOutcome α)) (history : SuiteHistory α) :
    SuiteAction α → Prop
  | .announced _ _ => True
  | .asked fired =>
    history.questions ≤ outcomes.length ∧
      history.events = .started size :: (outcomes.take history.questions).map .finished ∧
      (history.requested || fired) = decide (history.questions = outcomes.length)
  | .invoked place _ =>
    place < outcomes.length ∧ history.questions = place + 1 ∧
      history.events = .started size :: (outcomes.take place).map .finished ∧
      history.requested = false

/-- An element of two lists in a row belongs to the first or to the second. -/
theorem cases_of_append_eq {first second before after : List (SuiteAction α)}
    {action : SuiteAction α} (h : first ++ second = before ++ action :: after) :
    (∃ rest, first = before ++ action :: rest) ∨
      ∃ later, before = first ++ later ∧ second = later ++ action :: after := by
  rcases List.append_eq_append_iff.mp h with ⟨later, rfl, hlater⟩ | ⟨rest, rfl, hrest⟩
  · exact .inr ⟨later, rfl, hlater⟩
  · cases rest with
    | nil => exact .inr ⟨[], by simp, hrest.symm⟩
    | cons other rest =>
      obtain ⟨rfl, -⟩ := List.cons.inj hrest
      exact .inl ⟨rest, rfl⟩

/-- Where an action of a round stands in it. -/
theorem cases_of_round_eq {place : Nat} {times : List Nat} {outcome : CaseOutcome α}
    {cancels : Bool} {before after : List (SuiteAction α)} {action : SuiteAction α}
    (h : round place times outcome cancels = before ++ action :: after) :
    (before = [] ∧ action = .asked false) ∨
      (∃ earlier elapsed, before = .asked false :: invocations place earlier ∧
        action = .invoked place elapsed) ∨
      ∃ event cancels, action = .announced event cancels := by
  rw [round, List.cons_append, List.cons_eq_append_iff] at h
  rcases h with ⟨rfl, h⟩ | ⟨rest, rfl, h⟩
  · exact .inl ⟨rfl, (List.cons.inj h).1⟩
  · rcases List.append_eq_append_iff.mp h with
      ⟨middle, rfl, hlast⟩ | ⟨middle, hinvocations, hlast⟩
    · have hmem : action ∈ [announced (.finished outcome) cancels] := by
        rw [hlast]
        exact List.mem_append_right _ List.mem_cons_self
      exact .inr (.inr ⟨_, _, List.mem_singleton.mp hmem⟩)
    · cases middle with
      | nil => exact .inr (.inr ⟨_, _, (List.cons.inj hlast).1⟩)
      | cons first middle =>
        obtain ⟨rfl, -⟩ := List.cons.inj hlast
        obtain ⟨earlier, later, -, rfl, hlater⟩ := List.map_eq_append_iff.mp hinvocations
        obtain ⟨elapsed, tail, -, rfl, -⟩ := List.map_eq_cons_iff.mp hlater
        exact .inr (.inl ⟨earlier, elapsed, rfl, rfl⟩)

namespace Rounds

variable {place : Nat} {requested cancelled : Bool} {outcomes : List (CaseOutcome α)}
  {actions : List (SuiteAction α)}

/-- The outcomes are announced one by one, and there is one question before each of them and one
more where the suite stops. -/
theorem afterAll_eq (h : Rounds place requested outcomes cancelled actions)
    (history : SuiteHistory α) :
    (history.afterAll actions).events = history.events ++ outcomes.map .finished ∧
      (history.afterAll actions).questions =
        history.questions + outcomes.length + cancelled.toNat := by
  induction h generalizing history with
  | done place requested => simp
  | stop place hstop => simp [SuiteHistory.after]
  | round times outcome hrest ih =>
    obtain ⟨hevents, hquestions⟩ := ih (history.afterAll (SuiteAction.round _ times outcome _))
    rw [SuiteHistory.afterAll_append, hevents, hquestions, SuiteHistory.afterAll_round]
    refine ⟨by simp, ?_⟩
    simp only [List.length_cons]
    omega

/-- Every action is taken in order, if the suite came to the first of these cases in order. -/
theorem inOrder (h : Rounds place requested outcomes cancelled actions) {size : Nat}
    {earlier : List (CaseOutcome α)} {history : SuiteHistory α}
    (hearlier : earlier.length = place) (hquestions : history.questions = place)
    (hevents : history.events = .started size :: earlier.map .finished)
    (hrequested : history.requested = requested) {before after : List (SuiteAction α)}
    {action : SuiteAction α} (hactions : actions = before ++ action :: after) :
    action.InOrder size (earlier ++ outcomes) (history.afterAll before) := by
  induction h generalizing earlier history before with
  | done place requested => simp at hactions
  | @stop place requested fired hstop =>
    obtain ⟨rfl, rfl, rfl⟩ : before = [] ∧ action = .asked fired ∧ after = [] := by
      cases before with
      | nil => simpa [eq_comm] using hactions
      | cons => simp at hactions
    subst hearlier
    simp [InOrder, hquestions, hevents, hrequested, hstop]
  | @round place cancels cancelled outcomes actions times outcome hrest ih =>
    subst hearlier
    rcases cases_of_append_eq hactions with ⟨rest, hround⟩ | ⟨later, rfl, hlater⟩
    · rcases cases_of_round_eq hround with
        ⟨rfl, rfl⟩ | ⟨earlierTimes, elapsed, rfl, rfl⟩ | ⟨event, cancels, rfl⟩
      · simp [InOrder, hquestions, hevents, hrequested]
      · simp [InOrder, hquestions, hevents, hrequested, SuiteHistory.after]
      · trivial
    · have hnext := SuiteHistory.afterAll_round history earlier.length times outcome cancels
      rw [SuiteHistory.afterAll_append, hnext, List.append_cons]
      exact ih (by simp) (by simp [hquestions]) (by simp [hevents]) (by simp [hrequested]) hlater

end Rounds

end SuiteAction

/-! ## Traced suites -/

variable {ω : Type}

/-- How the cases of a suite were run from a state on: which actions were taken, and that the cases
that were not reached are as before. -/
structure SuitePass.TakesActions (pass : SuitePass α ω) (place : Nat) (cases : List Case)
    (state : SuiteState ω) (actions : List (SuiteAction α)) : Prop where
  rounds : SuiteAction.Rounds place state.cancelRequested pass.outcomes pass.cancelled actions
  lt_of_cancelled : pass.cancelled = true → pass.outcomes.length < cases.length
  drop_eq : pass.cases.drop pass.outcomes.length = cases.drop pass.outcomes.length

namespace SuitePass

variable {place : Nat} {rest : List Case} {state : SuiteState ω}

/-- A suite that stops before a case has asked once more, and nothing else is done. -/
theorem takesActions_stop {asked : SuiteState ω} {fired : Bool} (case : Case)
    (hrequested : asked.cancelRequested = (state.cancelRequested || fired))
    (hstop : asked.cancelRequested = true) :
    TakesActions (α := α) ⟨[], true, case :: rest, asked⟩ place (case :: rest) state
      [.asked fired] where
  rounds := .stop place (hrequested ▸ hstop)
  lt_of_cancelled _ := Nat.zero_lt_succ _
  drop_eq := rfl

/-- A case that is run makes a round before the actions of the cases after it. -/
theorem TakesActions.round {pass : SuitePass α ω} {next : SuiteState ω}
    {actions : List (SuiteAction α)} (h : pass.TakesActions (place + 1) rest next actions)
    (hrequested : state.cancelRequested = false) (times : List Nat) (case after : Case)
    (outcome : CaseOutcome α) :
    TakesActions { pass with outcomes := outcome :: pass.outcomes, cases := after :: pass.cases }
      place (case :: rest) state
      (SuiteAction.round place times outcome next.cancelRequested ++ actions) where
  rounds := by
    rw [hrequested]
    exact .round times outcome h.rounds
  lt_of_cancelled hcancelled := Nat.succ_lt_succ (h.lt_of_cancelled hcancelled)
  drop_eq := h.drop_eq

end SuitePass

variable [Scalar α] {settings : SamplingSettings α} {limit : Nat}
  {surroundings : Surroundings α ω}

theorem takesActions_of_runCasesTraced {place : Nat} {cases : List Case} {state : SuiteState ω}
    {pass : SuitePass α ω} {actions : List (SuiteAction α)}
    (h : runCasesTraced settings limit surroundings place cases state = some (pass, actions)) :
    pass.TakesActions place cases state actions := by
  induction cases generalizing place state pass actions with
  | nil =>
    cases h
    exact ⟨.done place _, nofun, rfl⟩
  | cons case rest ih =>
    rcases runCasesTraced_cons_cases h with
      ⟨hstop, rfl, rfl⟩ | ⟨outcome, bench, times, later, laterActions, hgo, -, hlater, rfl, rfl⟩
    · exact SuitePass.takesActions_stop case rfl hstop
    · set asked := state.askInterrupt surroundings
      set fired := (surroundings.poll state.signalled state.outside).1
      set cancels := (surroundings.notify (.finished outcome) asked.outside).1
      -- no interrupt has fired, so that only the announcement can request cancellation
      have hrequested : asked.cancelRequested = (state.cancelRequested || fired) := rfl
      obtain ⟨hstate, hfired⟩ : state.cancelRequested = false ∧ fired = false := by
        simpa [hrequested] using hgo
      have hround : SuiteAction.asked fired :: SuiteAction.invocations place times ++
          .announced (.finished outcome) cancels :: laterActions =
            SuiteAction.round place times outcome (asked.cancelRequested || cancels) ++
              laterActions := by
        simp [SuiteAction.round, hfired, hgo]
      rw [hround]
      exact (ih hlater).round hstate times case bench.case outcome

/-- Cases that are run have a trace. -/
theorem exists_runCasesTraced_eq {cases : List Case} {state : SuiteState ω} {pass : SuitePass α ω}
    (h : runCases settings limit surroundings cases state = some pass) (place : Nat) :
    ∃ actions, runCasesTraced settings limit surroundings place cases state = some (pass, actions) ∧
      pass.TakesActions place cases state actions := by
  rw [← runCasesTraced_map_fst settings limit surroundings place] at h
  obtain ⟨⟨traced, actions⟩, htraced, rfl⟩ := Option.map_eq_some_iff.mp h
  exact ⟨actions, htraced, takesActions_of_runCasesTraced htraced⟩

/-! ## The whole suite -/

/-- Cases that come to an end alone make a suite that comes to an end, whatever surrounds it. -/
theorem Registry.exists_run (registry : Registry)
    (hends : ∀ case ∈ registry.cases, ∃ outcome, case.HasOutcome settings outcome) :
    ∃ limit, ∀ (ω : Type) (surroundings : Surroundings α ω) (state : SuiteState ω),
      ∃ run, registry.run settings limit surroundings state = some run := by
  obtain ⟨limit, hlimit⟩ := exists_limit hends
  refine ⟨limit, fun ω surroundings state ↦ ?_⟩
  have hpass := runCases_isSome hlimit surroundings
    (state.announce surroundings (.started registry.size))
  obtain ⟨pass, hpass⟩ := Option.isSome_iff_exists.mp hpass
  exact ⟨_, by rw [Registry.run, hpass]; rfl⟩

/-- The traced suite has a trace from the announcement of its start to that of its end, in which
every answer is given by whoever surrounds the suite, and every action is taken in order. -/
theorem Registry.exists_runTraced_eq {registry : Registry} {state : SuiteState ω}
    {run : SuiteRun α ω} (h : registry.run settings limit surroundings state = some run) :
    let start := SuiteHistory.ofState state
    ∃ trace, registry.runTraced settings limit surroundings state = some (run, trace) ∧
      surroundings.Execution state trace run.state ∧
      start.afterAll trace =
        { events :=
            .started registry.size :: run.result.outcomes.map .finished ++ [.concluded run.result]
          questions := run.result.outcomes.length + run.result.cancelled.toNat
          requested := run.state.cancelRequested
          clock := run.state.clock } ∧
      ∀ before action after, trace = before ++ action :: after →
        action.InOrder registry.size run.result.outcomes (start.afterAll before) := by
  intro start
  obtain ⟨pass, hpass, rfl⟩ := Option.map_eq_some_iff.mp h
  obtain ⟨actions, hactions, htaken⟩ := exists_runCasesTraced_eq hpass 0
  set result := SuiteResult.ofOutcomes pass.outcomes pass.cancelled
  let opening : SuiteAction α := .announced (.started registry.size)
    (surroundings.notify (.started registry.size) state.outside).1
  let closing : SuiteAction α := .announced (.concluded result)
    (surroundings.notify (.concluded result) pass.state.outside).1
  let trace := opening :: actions ++ [closing]
  have htraced : registry.runTraced settings limit surroundings state =
      some (⟨result, pass.cases, pass.state.announce surroundings (.concluded result)⟩, trace) :=
    congrArg (Option.map _) hactions
  have hexecution := Registry.execution_of_runTraced htraced
  refine ⟨trace, htraced, hexecution, ?_, ?_⟩
  · have hleads := hexecution.leadsTo (SuiteHistory.ofState_leadsTo state)
    have hlast : start.afterAll trace = ((start.after opening).afterAll actions).after closing :=
      SuiteHistory.afterAll_append (start.after opening) actions [closing]
    obtain ⟨hevents, hquestions⟩ := htaken.rounds.afterAll_eq (start.after opening)
    calc
      start.afterAll trace = ⟨(start.afterAll trace).events, (start.afterAll trace).questions,
          _, _⟩ := hleads.eq
      _ = _ := by
        rw [hlast, SuiteHistory.after, hevents, hquestions]
        simp [start, SuiteHistory.after, SuiteHistory.ofState, opening, result,
          SuiteResult.ofOutcomes]
  · intro before action after htrace
    cases before with
    | nil =>
      obtain ⟨rfl, -⟩ := List.cons.inj htrace
      trivial
    | cons first before =>
      obtain ⟨rfl, hrest⟩ := List.cons.inj htrace
      rcases SuiteAction.cases_of_append_eq hrest with ⟨rest, hactions⟩ | ⟨later, -, hlater⟩
      · rw [SuiteHistory.afterAll_cons]
        exact htaken.rounds.inOrder List.length_nil rfl rfl rfl hactions
      · have hmem : action ∈ [closing] := by
          rw [hlater]
          exact List.mem_append_right _ List.mem_cons_self
        obtain rfl := List.mem_singleton.mp hmem
        trivial

/-- A suite whose cases come to an end comes to an end. However it is surrounded and whether or not
cancellation was requested before it starts, it then has the outcomes of its first cases in their
order, it is cancelled iff they are not all, and the cases that were not reached are as they were.
Whoever listens is left with what the announcements of its size, of every outcome and of its result
make known, in this order. The trace is an execution: every answer in it is the one that is given in
the state that the answers before have led to. It has one announcement of every event, and one
question before every case that is run and one more where the suite stops. Every action is taken in
order, only invocations move the clock on, and the request for cancellation stays after the end. -/
theorem suite_keeps_order (registry : Registry) (settings : SamplingSettings α) :
    ((∀ case ∈ registry.cases, ∃ outcome, case.HasOutcome settings outcome) →
      ∃ limit, ∀ (ω : Type) (surroundings : Surroundings α ω) (state : SuiteState ω),
        ∃ run, registry.run settings limit surroundings state = some run) ∧
    ∀ (ω : Type) (limit : Nat) (surroundings : Surroundings α ω) (state : SuiteState ω)
      (run : SuiteRun α ω), registry.run settings limit surroundings state = some run →
      let outcomes := run.result.outcomes
      let start := SuiteHistory.ofState state
      List.Forall₂ (Case.HasOutcome settings) (registry.cases.take outcomes.length) outcomes ∧
        (run.result.cancelled = true ↔ outcomes.length < registry.size) ∧
        run.cases.drop outcomes.length = registry.cases.drop outcomes.length ∧
        (∀ (υ : Type) (heard : ω → υ) (hear : SuiteEvent α → υ → υ),
          surroundings.Hears heard hear → heard run.state.outside =
            hearAll hear (run.result.events registry.size) (heard state.outside)) ∧
        ∃ trace, registry.runTraced settings limit surroundings state = some (run, trace) ∧
          surroundings.Execution state trace run.state ∧
          start.afterAll trace =
            { events := .started registry.size :: outcomes.map .finished ++ [.concluded run.result]
              questions := outcomes.length + run.result.cancelled.toNat
              requested := run.state.cancelRequested
              clock := run.state.clock } ∧
          ∀ before action after, trace = before ++ action :: after →
            action.InOrder registry.size outcomes (start.afterAll before) := by
  refine ⟨registry.exists_run, fun ω limit surroundings state run h ↦ ?_⟩
  intro outcomes start
  have htrace := registry.exists_runTraced_eq h
  have hheard (υ : Type) (heard : ω → υ) (hear : SuiteEvent α → υ → υ)
      (hhears : surroundings.Hears heard hear) := hhears.run h
  obtain ⟨pass, hpass, rfl⟩ := Option.map_eq_some_iff.mp h
  obtain ⟨houtcomes, hlength⟩ := runCases_faithful hpass
  obtain ⟨actions, -, htaken⟩ := exists_runCasesTraced_eq hpass 0
  refine ⟨houtcomes, ⟨htaken.lt_of_cancelled, fun hlt ↦ ?_⟩, htaken.drop_eq, hheard,
    htrace⟩
  cases hcancelled : pass.cancelled with
  | true => rfl
  | false => exact absurd (hlength hcancelled) (Nat.ne_of_lt hlt)

/-- An interrupt before the second of three cases, from a source that counts how often it is asked,
beside a listener that writes down all events: the first case has been run, nothing is done with the
others, and the request for cancellation stays. -/
theorem suite_keeps_order_interrupted :
    let settings : SamplingSettings Float := ⟨25, 2, 100.0, 60, .standard⟩
    let steady (name : String) := Script.toCase name (.steady 10)
    let registry : Registry :=
      ⟨["first", "second", "third"].map steady, .ofList ["first", "second", "third"]⟩
    let surroundings : Surroundings Float (Nat × List (SuiteEvent Float)) :=
      ⟨fun event (polls, events) ↦ (false, polls, events ++ [event]),
        fun _ (polls, events) ↦ (polls + 1 == 2, polls + 1, events)⟩
    let state : SuiteState (Nat × List (SuiteEvent Float)) := ⟨1000, false, false, 0, []⟩
    ∃ (run : SuiteRun Float (Nat × List (SuiteEvent Float))) (trace : List (SuiteAction Float))
      (outcome : CaseOutcome Float),
      registry.run settings 2 surroundings state = some run ∧
        registry.runTraced settings 2 surroundings state = some (run, trace) ∧
        run.result.cancelled = true ∧ run.result.outcomes = [outcome] ∧
        (steady "first").HasOutcome settings outcome ∧
        run.state.outside = (2, [.started 3, .finished outcome, .concluded run.result]) ∧
        surroundings.Execution state trace run.state ∧
        (SuiteHistory.ofState state).afterAll trace =
          ⟨[.started 3, .finished outcome, .concluded run.result], 2, true, 1070⟩ ∧
        run.cases.drop 1 = ["second", "third"].map steady := by
  intro settings steady registry surroundings state
  have hrun : (registry.run settings 2 surroundings state).map (fun run ↦
      (run.result.cancelled, run.result.outcomes.length, run.state.cancelRequested,
        run.state.clock, run.state.outside.1)) = some (true, 1, true, 1070, 2) := by decide +kernel
  obtain ⟨run, hrun, hparts⟩ := Option.map_eq_some_iff.mp hrun
  simp only [Prod.mk.injEq] at hparts
  obtain ⟨hcancelled, hlength, hrequested, hclock, hpolls⟩ := hparts
  obtain ⟨houtcomes, -, hcases, hheard, trace, htrace, hexecution, hafter, -⟩ :=
    (suite_keeps_order registry settings).2 _ 2 surroundings state run hrun
  have hevents := hheard _ Prod.snd (fun event events ↦ events ++ [event])
    ⟨fun _ _ ↦ rfl, fun _ _ ↦ rfl⟩
  obtain ⟨outcome, houtcome⟩ := List.length_eq_one_iff.mp hlength
  rw [SuiteResult.events] at hevents
  rw [houtcome] at houtcomes hcases hafter hevents
  rw [hcancelled, hrequested, hclock] at hafter
  exact ⟨run, trace, outcome, hrun, htrace, hcancelled, houtcome,
    (List.forall₂_cons.mp houtcomes).1, Prod.ext hpolls hevents, hexecution, hafter, hcases⟩

end PushBench
