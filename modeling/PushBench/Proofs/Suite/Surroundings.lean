import Mathlib.Tactic.Set
import PushBench.Proofs.Suite.Trace

/-!
# Suites in different surroundings

A suite sees its surroundings only through their answers. Two surroundings whose states are related
by a view, and that answer alike, therefore surround the same suite: it does the same, in the same
order, with the same result. What a listener comes to know of a suite is made up from the events
that are announced, in their order.
-/

namespace PushBench

variable {α ω υ : Type}

/-! ## Views of what surrounds a suite -/

/-- A suite between two cases, with another view of what surrounds it. -/
def SuiteState.map (view : ω → υ) (state : SuiteState ω) : SuiteState υ :=
  { state with outside := view state.outside }

section

variable (view : ω → υ) (state : SuiteState ω)

@[simp]
theorem SuiteState.map_clock : (state.map view).clock = state.clock := rfl

@[simp]
theorem SuiteState.map_cancelRequested :
    (state.map view).cancelRequested = state.cancelRequested := rfl

@[simp]
theorem SuiteState.map_signalled : (state.map view).signalled = state.signalled := rfl

@[simp]
theorem SuiteState.map_outside : (state.map view).outside = view state.outside := rfl

end

/-- The cases that have been run, with another view of what surrounds them. -/
def SuitePass.map (view : ω → υ) (pass : SuitePass α ω) : SuitePass α υ :=
  { pass with state := pass.state.map view }

/-- A suite that has been run, with another view of what surrounds it. -/
def SuiteRun.map (view : ω → υ) (run : SuiteRun α ω) : SuiteRun α υ :=
  { run with state := run.state.map view }

/-- Seen through a view, the surroundings act as others do. -/
structure Surroundings.SeenAs (surroundings : Surroundings α ω) (view : ω → υ)
    (others : Surroundings α υ) : Prop where
  notify (event : SuiteEvent α) (outside : ω) :
    others.notify event (view outside) = (surroundings.notify event outside).map id view
  poll (signalled : Bool) (outside : ω) :
    others.poll signalled (view outside) = (surroundings.poll signalled outside).map id view

namespace Surroundings.SeenAs

variable {surroundings : Surroundings α ω} {view : ω → υ} {others : Surroundings α υ}

theorem notify_fst (h : surroundings.SeenAs view others) (event : SuiteEvent α) (outside : ω) :
    (others.notify event (view outside)).1 = (surroundings.notify event outside).1 :=
  congrArg Prod.fst (h.notify event outside)

theorem poll_fst (h : surroundings.SeenAs view others) (signalled : Bool) (outside : ω) :
    (others.poll signalled (view outside)).1 = (surroundings.poll signalled outside).1 :=
  congrArg Prod.fst (h.poll signalled outside)

theorem announce (h : surroundings.SeenAs view others) (state : SuiteState ω)
    (event : SuiteEvent α) :
    (state.map view).announce others event = (state.announce surroundings event).map view := by
  simp only [SuiteState.announce, SuiteState.map, h.notify, Prod.map_fst, Prod.map_snd, id]

theorem askInterrupt (h : surroundings.SeenAs view others) (state : SuiteState ω) :
    (state.map view).askInterrupt others = (state.askInterrupt surroundings).map view := by
  simp only [SuiteState.askInterrupt, SuiteState.map, h.poll, Prod.map_fst, Prod.map_snd, id]

variable [Scalar α] {settings : SamplingSettings α} {limit : Nat}

/-- Cases are run in the same way, whatever else their surroundings hold. -/
theorem runCasesTraced (h : surroundings.SeenAs view others) (place : Nat) (cases : List Case)
    (state : SuiteState ω) :
    PushBench.runCasesTraced settings limit others place cases (state.map view) =
      (PushBench.runCasesTraced settings limit surroundings place cases state).map
        (Prod.map (SuitePass.map view) id) := by
  induction cases generalizing place state with
  | nil => rfl
  | cons case rest ih =>
    have hfired := h.poll_fst state.signalled state.outside
    simp only [PushBench.runCasesTraced, h.askInterrupt, SuiteState.map_signalled,
      SuiteState.map_outside, hfired]
    -- The question is answered alike, so both suites stop here or measure the same case.
    set asked := state.askInterrupt surroundings
    have hsame := asked.map_cancelRequested view
    by_cases hstop : asked.cancelRequested
    · rw [if_pos (hsame.trans hstop), if_pos hstop]
      rfl
    · rw [if_neg (hsame ▸ hstop), if_neg hstop, SuiteState.map_clock]
      rcases Bench.measureTraced settings limit ⟨case, asked.clock, asked.signalled⟩ with
        ⟨answer, bench, times⟩
      cases answer with
      | none => rfl
      | some outcome =>
        let measured : SuiteState ω :=
          { asked with clock := bench.clock, signalled := bench.signalled }
        have hnext := h.announce measured (.finished outcome)
        have hrest := ih (place + 1) (measured.announce surroundings (.finished outcome))
        rw [← hnext] at hrest
        dsimp only
        rw [h.notify_fst, Option.map_map]
        exact (congrArg (Option.map _) hrest).trans (Option.map_map _ _ _)

/-- A suite does the same and has the same result, whatever else its surroundings hold. -/
theorem runTraced (h : surroundings.SeenAs view others) (registry : Registry)
    (state : SuiteState ω) :
    registry.runTraced settings limit others (state.map view) =
      (registry.runTraced settings limit surroundings state).map
        (Prod.map (SuiteRun.map view) id) := by
  simp only [Registry.runTraced, SuiteState.map_outside, h.notify_fst, h.announce,
    h.runCasesTraced, Option.map_map]
  refine congrArg (Option.map · _) (funext ?_)
  rintro ⟨pass, actions⟩
  simp only [Function.comp_apply, Prod.map_apply, id, SuitePass.map, h.announce, h.notify_fst,
    SuiteState.map_outside, SuiteRun.map]

end Surroundings.SeenAs

/-! ## Listeners -/

/-- What is heard of a suite: only announcements change it, and every announcement does so in the
same way. -/
structure Surroundings.Hears (surroundings : Surroundings α ω) (heard : ω → υ)
    (hear : SuiteEvent α → υ → υ) : Prop where
  notify (event : SuiteEvent α) (outside : ω) :
    heard (surroundings.notify event outside).2 = hear event (heard outside)
  poll (signalled : Bool) (outside : ω) :
    heard (surroundings.poll signalled outside).2 = heard outside

/-- What is known after some more events were heard. -/
def hearAll (hear : SuiteEvent α → υ → υ) (events : List (SuiteEvent α)) (known : υ) : υ :=
  events.foldl (fun known event ↦ hear event known) known

/-- Whoever learns nothing from events knows afterwards what was known before. -/
theorem hearAll_const (events : List (SuiteEvent α)) (known : υ) :
    hearAll (fun _ known ↦ known) events known = known := by
  induction events with
  | nil => rfl
  | cons event events ih => exact ih

/-- The events that a suite of `size` cases announces on its way to a result. -/
def SuiteResult.events (result : SuiteResult α) (size : Nat) : List (SuiteEvent α) :=
  .started size :: result.outcomes.map .finished ++ [.concluded result]

namespace Surroundings.Hears

variable [Scalar α] {surroundings : Surroundings α ω} {heard : ω → υ}
  {hear : SuiteEvent α → υ → υ} {settings : SamplingSettings α} {limit : Nat}
  {state : SuiteState ω}

theorem runCases (h : surroundings.Hears heard hear) {cases : List Case} {pass : SuitePass α ω}
    (hpass : PushBench.runCases settings limit surroundings cases state = some pass) :
    heard pass.state.outside =
      hearAll hear (pass.outcomes.map .finished) (heard state.outside) := by
  induction cases generalizing state pass with
  | nil =>
    cases hpass
    rfl
  | cons case rest ih =>
    have hasked := h.poll state.signalled state.outside
    unfold PushBench.runCases at hpass
    dsimp only at hpass
    split at hpass
    next =>
      cases hpass
      exact hasked
    next =>
      split at hpass
      next => cases hpass
      next outcome bench hmeasure =>
        obtain ⟨later, hlater, rfl⟩ := Option.map_eq_some_iff.mp hpass
        have hfinished := h.notify (.finished outcome) (state.askInterrupt surroundings).outside
        rw [ih hlater]
        change hearAll hear _ (heard (surroundings.notify (.finished outcome)
          (state.askInterrupt surroundings).outside).2) = _
        rw [hfinished]
        change hearAll hear _ (hear _ (heard (surroundings.poll _ _).2)) = _
        rw [hasked]
        rfl

/-- A suite that came to a result was heard event by event. -/
theorem run (h : surroundings.Hears heard hear) {registry : Registry} {run : SuiteRun α ω}
    (hrun : registry.run settings limit surroundings state = some run) :
    heard run.state.outside =
      hearAll hear (run.result.events registry.size) (heard state.outside) := by
  obtain ⟨pass, hpass, rfl⟩ := Option.map_eq_some_iff.mp hrun
  have hcases := h.runCases hpass
  have hstart := h.notify (.started registry.size) state.outside
  set result := SuiteResult.ofOutcomes pass.outcomes pass.cancelled
  calc
    heard (pass.state.announce surroundings (.concluded result)).outside =
        hear (.concluded result) (heard pass.state.outside) := h.notify _ _
    _ = hear (.concluded result) (hearAll hear (pass.outcomes.map .finished)
          (hear (.started registry.size) (heard state.outside))) := by
      rw [hcases, ← hstart]
      rfl
    _ = hearAll hear (result.events registry.size) (heard state.outside) := by
      simp only [hearAll, SuiteResult.events, List.foldl_append, List.foldl_cons, List.foldl_nil,
        result, SuiteResult.ofOutcomes]

end Surroundings.Hears

/-! ## Suites that nothing cancels -/

/-- Nobody asks for cancellation, and no interrupt fires. -/
structure Surroundings.Quiet (surroundings : Surroundings α ω) : Prop where
  notify (event : SuiteEvent α) (outside : ω) : (surroundings.notify event outside).1 = false
  poll (signalled : Bool) (outside : ω) : (surroundings.poll signalled outside).1 = false

namespace Surroundings.Quiet

variable [Scalar α] {surroundings : Surroundings α ω} {settings : SamplingSettings α} {limit : Nat}
  {state : SuiteState ω}

theorem runCases (h : surroundings.Quiet) {cases : List Case} {pass : SuitePass α ω}
    (hstate : state.cancelRequested = false)
    (hpass : PushBench.runCases settings limit surroundings cases state = some pass) :
    pass.cancelled = false := by
  induction cases generalizing state pass with
  | nil =>
    cases hpass
    rfl
  | cons case rest ih =>
    have hasked : (state.askInterrupt surroundings).cancelRequested = false := by
      simp only [SuiteState.askInterrupt, hstate, h.poll, Bool.or_self]
    rw [PushBench.runCases] at hpass
    dsimp only at hpass
    rw [hasked, if_neg Bool.false_ne_true] at hpass
    split at hpass
    next => cases hpass
    next outcome bench hmeasure =>
      obtain ⟨later, hlater, rfl⟩ := Option.map_eq_some_iff.mp hpass
      have hlaterCancelled : later.cancelled = false := by
        apply ih _ hlater
        simp only [SuiteState.announce, h.notify, Bool.or_self]
      exact hlaterCancelled

/-- A suite that nothing cancels is not cancelled. -/
theorem run (h : surroundings.Quiet) {registry : Registry} {run : SuiteRun α ω}
    (hstate : state.cancelRequested = false)
    (hrun : registry.run settings limit surroundings state = some run) :
    run.result.cancelled = false := by
  obtain ⟨pass, hpass, rfl⟩ := Option.map_eq_some_iff.mp hrun
  have hcancelled : pass.cancelled = false := by
    apply h.runCases _ hpass
    simp only [SuiteState.announce, hstate, h.notify, Bool.or_self]
  exact hcancelled

end Surroundings.Quiet

end PushBench
