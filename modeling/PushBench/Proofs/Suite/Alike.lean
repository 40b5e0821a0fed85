import PushBench.Proofs.Suite.Alone
import PushBench.Proofs.Workload.Standard
import Mathlib.Data.List.Forall2
import Mathlib.Data.Option.Basic

/-!
# Cases that are alike

Cases that answer alike and take the same time, invocation after invocation, have the same outcomes,
on clocks that differ by a constant as well. Suites of such cases therefore come to the same result.
-/

namespace PushBench

/-! ## Cases -/

/-- Cases that neither their names, nor why they are skipped, nor invocations tell apart. -/
structure Case.Simulation where
  cases : Case → Case → Prop
  name_eq {case other : Case} : cases case other → case.name = other.name
  skipReason_eq {case other : Case} : cases case other → case.skipReason = other.skipReason
  reply_eq {case other : Case} : cases case other → case.run.1 = other.run.1
  cases_run {case other : Case} : cases case other → cases case.run.2 other.run.2

/-- A case cannot be told from another one. -/
def Case.Alike (case other : Case) : Prop :=
  ∃ simulation : Case.Simulation, simulation.cases case other

namespace Case.Alike

variable {case other : Case}

theorem refl (case : Case) : case.Alike case := by
  refine ⟨⟨Eq, ?_, ?_, ?_, ?_⟩, rfl⟩ <;> rintro case other rfl <;> rfl

theorem run (h : case.Alike other) : case.run.1 = other.run.1 ∧ case.run.2.Alike other.run.2 := by
  obtain ⟨simulation, hcases⟩ := h
  exact ⟨simulation.reply_eq hcases, simulation, simulation.cases_run hcases⟩

end Case.Alike

/-! ## Cases made from adapters -/

/-- What an invocation replies that has a course, where a push takes a set time. -/
def Workload.Course.reply (course : Workload.Course) (cost : Nat) : Reply Unit Unit where
  answer :=
    match course.refused with
    | some error => .error (.ofAdapter error)
    | none => .ok ()
  elapsed := cost * course.made
  signals := false
  state := ()

section

variable {σ η : Type} {adapter : Adapter σ η} {cost : Nat} {refusal : Element → Option AdapterError}
  (regularity : Workload.Regularity adapter cost refusal) (tidy : Workload.Invariant adapter)
  (hreleased : ∀ {state : σ}, tidy.idle state → adapter.checkReleased state = .ok ())
  (label : String) (workload : Workload)

include hreleased in
/-- An invocation that is served regularly, and leaves nothing behind, replies by its course. -/
theorem Case.run_named {state : σ} (hready : regularity.ready state) (hidle : tidy.idle state) :
    (named label adapter state workload).run.1 =
      (Workload.courseFrom refusal 0 workload.len).reply cost := by
  have hrun := regularity.run hready workload
  have hclean := hreleased (tidy.run hidle workload)
  simp only [run, named, replyOf, hrun.answer_eq, hrun.charged_eq, hclean, Nat.add_sub_cancel_left]
  unfold Workload.Course.answer Workload.Course.reply
  cases (Workload.courseFrom refusal 0 workload.len).refused <;> rfl

/-- Invocations that are served regularly, and leave nothing behind, are alike whenever they
start. -/
def Case.simulationOf : Case.Simulation where
  cases case other :=
    ∃ state state', (regularity.ready state ∧ tidy.idle state) ∧
      (regularity.ready state' ∧ tidy.idle state') ∧
      case = .named label adapter state workload ∧ other = .named label adapter state' workload
  name_eq := by
    rintro case other ⟨state, state', -, -, rfl, rfl⟩
    rfl
  skipReason_eq := by
    rintro case other ⟨state, state', -, -, rfl, rfl⟩
    rfl
  reply_eq := by
    rintro case other ⟨state, state', ⟨hready, hidle⟩, ⟨hready', hidle'⟩, rfl, rfl⟩
    rw [run_named regularity tidy hreleased label workload hready hidle,
      run_named regularity tidy hreleased label workload hready' hidle']
  cases_run := by
    rintro case other ⟨state, state', ⟨hready, hidle⟩, ⟨hready', hidle'⟩, rfl, rfl⟩
    have hended := (regularity.run hready workload).holds
    have hended' := (regularity.run hready' workload).holds
    exact ⟨_, _, ⟨regularity.ready_of_ended hended, tidy.run hidle workload⟩,
      ⟨regularity.ready_of_ended hended', tidy.run hidle' workload⟩, rfl, rfl⟩

end

/-! ## Measurements -/

namespace Bench

/-- Two benches have cases that are alike, and the clock of the first is ahead of that of the
second. -/
structure Alike (ahead : Nat) (bench other : Bench) : Prop where
  case : bench.case.Alike other.case
  clock_eq : bench.clock = other.clock + ahead
  signalled_eq : bench.signalled = other.signalled

variable {ahead : Nat} {bench other : Bench}

theorem Alike.answer_eq (h : Alike ahead bench other) : bench.invoke.1 = other.invoke.1 :=
  congrArg Reply.answer h.case.run.1

theorem Alike.invoke (h : Alike ahead bench other) :
    Alike ahead bench.invoke.2 other.invoke.2 := by
  obtain ⟨hreply, hafter⟩ := h.case.run
  refine ⟨hafter, ?_, ?_⟩
  · simp only [Bench.invoke, h.clock_eq, hreply]
    omega
  · simp only [Bench.invoke, h.signalled_eq, hreply]

/-- Benches with cases that are alike cannot be told apart by sampling. -/
def alike (ahead : Nat) : Bench.subject.Simulation Bench.subject where
  ahead
  worlds := Alike ahead
  now_eq := Alike.clock_eq
  answer_eq := Alike.answer_eq
  worlds_invoke := Alike.invoke

variable {α : Type} [Scalar α]

theorem measure_alike (h : Alike ahead bench other) (settings : SamplingSettings α)
    (limit : Nat) :
    (alike ahead).Agree (measure settings limit bench) (measure settings limit other) := by
  have hmeasure := (alike ahead).measure h settings limit
  obtain ⟨simulation, hcases⟩ := h.case
  unfold measure
  rw [simulation.name_eq hcases, simulation.skipReason_eq hcases]
  cases other.case.skipReason with
  | some reason => exact ⟨rfl, h⟩
  | none => exact ⟨congrArg (Option.map _) hmeasure.answers, hmeasure.worlds⟩

end Bench

/-! ## Suites -/

/-- A suite between two cases, with a clock that is ahead. -/
def SuiteState.delayed {ω : Type} (state : SuiteState ω) (ahead : Nat) : SuiteState ω :=
  { state with clock := state.clock + ahead }

variable {α ω : Type} {ahead : Nat}

/-- What is seen of a suite from outside: its result, and the state of what surrounds it. -/
def SuiteRun.seen (run : SuiteRun α ω) : SuiteResult α × ω := (run.result, run.state.outside)

/-- Two passes over cases agree: they differ in the clock and in the cases they leave behind. -/
structure SuitePass.Agrees (ahead : Nat) (pass other : SuitePass α ω) : Prop where
  outcomes_eq : pass.outcomes = other.outcomes
  cancelled_eq : pass.cancelled = other.cancelled
  state_eq : pass.state = other.state.delayed ahead

theorem SuitePass.Agrees.cons {passes others : Option (SuitePass α ω)}
    (h : Option.Rel (SuitePass.Agrees ahead) passes others) (outcome : CaseOutcome α)
    (case other : Case) :
    Option.Rel (SuitePass.Agrees ahead)
      (passes.map fun pass ↦
        { pass with outcomes := outcome :: pass.outcomes, cases := case :: pass.cases })
      (others.map fun pass ↦
        { pass with outcomes := outcome :: pass.outcomes, cases := other :: pass.cases }) := by
  cases h with
  | none => exact .none
  | some h => exact .some ⟨congrArg (outcome :: ·) h.outcomes_eq, h.cancelled_eq, h.state_eq⟩

variable [Scalar α] {settings : SamplingSettings α} {limit : Nat}
  {surroundings : Surroundings α ω}

theorem runCases_alike {cases others : List Case} (h : List.Forall₂ Case.Alike cases others)
    (state : SuiteState ω) :
    Option.Rel (SuitePass.Agrees ahead)
      (runCases settings limit surroundings cases (state.delayed ahead))
      (runCases settings limit surroundings others state) := by
  induction h generalizing state with
  | nil => exact .some ⟨rfl, rfl, rfl⟩
  | @cons case other rest others hcase _ ih =>
    have hasked : (state.delayed ahead).askInterrupt surroundings =
        (state.askInterrupt surroundings).delayed ahead := rfl
    rw [runCases, runCases, hasked]
    dsimp only
    generalize state.askInterrupt surroundings = asked
    have hcancelled : (asked.delayed ahead).cancelRequested = asked.cancelRequested := rfl
    rw [hcancelled]
    split
    next => exact .some ⟨rfl, rfl, rfl⟩
    next =>
      have hbenches : Bench.Alike ahead
          ⟨case, (asked.delayed ahead).clock, (asked.delayed ahead).signalled⟩
          ⟨other, asked.clock, asked.signalled⟩ := ⟨hcase, rfl, rfl⟩
      have hmeasure := Bench.measure_alike hbenches settings limit
      rcases hleft : Bench.measure settings limit
          ⟨case, (asked.delayed ahead).clock, (asked.delayed ahead).signalled⟩ with ⟨answer, bench⟩
      rcases hright : Bench.measure settings limit ⟨other, asked.clock, asked.signalled⟩ with
        ⟨answer', bench'⟩
      rw [hleft, hright] at hmeasure
      obtain ⟨hanswer, -, hclock, hsignalled⟩ := hmeasure
      dsimp only at hanswer hclock hsignalled
      subst hanswer
      cases answer with
      | none => exact .none
      | some outcome =>
        let measured : SuiteState ω :=
          { asked with clock := bench'.clock, signalled := bench'.signalled }
        have hrest := ih (measured.announce surroundings (.finished outcome))
        dsimp only
        rw [hclock, hsignalled]
        exact SuitePass.Agrees.cons hrest outcome bench.case bench'.case

/-- Suites of cases that are alike look the same from outside. -/
theorem Registry.run_alike {registry other : Registry}
    (h : List.Forall₂ Case.Alike registry.cases other.cases) (settings : SamplingSettings α)
    (limit : Nat) (surroundings : Surroundings α ω) (state : SuiteState ω) :
    (registry.run settings limit surroundings (state.delayed ahead)).map SuiteRun.seen =
      (other.run settings limit surroundings state).map SuiteRun.seen := by
  have hstarted : (state.delayed ahead).announce surroundings (.started registry.size) =
      (state.announce surroundings (.started other.size)).delayed ahead := by
    rw [Registry.size, Registry.size, h.length_eq]
    rfl
  have hpasses : Option.Rel (SuitePass.Agrees ahead)
      (runCases settings limit surroundings registry.cases
        ((state.announce surroundings (.started other.size)).delayed ahead))
      (runCases settings limit surroundings other.cases
        (state.announce surroundings (.started other.size))) :=
    runCases_alike h _
  rw [Registry.run, Registry.run, hstarted]
  dsimp only
  generalize runCases settings limit surroundings registry.cases _ = passes at hpasses ⊢
  generalize runCases settings limit surroundings other.cases _ = others at hpasses ⊢
  cases hpasses with
  | none => rfl
  | @some pass other hagrees =>
    simp only [Option.map_some, SuiteRun.seen, hagrees.outcomes_eq, hagrees.cancelled_eq,
      hagrees.state_eq]
    rfl

end PushBench
