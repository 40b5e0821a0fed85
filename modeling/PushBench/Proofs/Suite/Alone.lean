import PushBench.Proofs.Sampling.Limit
import PushBench.Proofs.Sampling.Simulation
import PushBench.Suite.Run
import Mathlib.Logic.Relator

/-!
# Cases measured alone

The outcome of a case is the one that it has on a clock of its own that starts at zero. It is the
same on every other clock, since a sampler only takes differences of times.
-/

namespace PushBench

variable {α : Type} [Scalar α] {settings : SamplingSettings α} {limit limit' clock : Nat}
  {signalled : Bool} {case : Case} {outcome : CaseOutcome α}

/-- The outcome of a case in its first state that is measured alone, on a clock that starts at
zero. -/
def Case.HasOutcome (settings : SamplingSettings α) (case : Case) (outcome : CaseOutcome α) :
    Prop :=
  ∃ limit, (Bench.measure settings limit ⟨case, 0, false⟩).1 = some outcome

namespace Bench

/-- A bench whose clock is ahead of another one with the same case. -/
def aheadBy (clock : Nat) : Bench.subject.Simulation Bench.subject where
  ahead := clock
  worlds bench bench' := bench.case = bench'.case ∧ bench.clock = bench'.clock + clock
  now_eq h := h.2
  answer_eq h := by simp only [Bench.subject, Bench.invoke, h.1]
  worlds_invoke h := by
    obtain ⟨hcase, hclock⟩ := h
    refine ⟨?_, ?_⟩
    · simp only [Bench.subject, Bench.invoke, hcase]
    · simp only [Bench.subject, Bench.invoke, hcase, hclock]
      omega

/-- Neither the clock nor a raised signal has an influence on the outcome. -/
theorem measure_eq_alone (settings : SamplingSettings α) (limit clock : Nat) (signalled : Bool)
    (case : Case) :
    (measure settings limit ⟨case, clock, signalled⟩).1 =
      (measure settings limit ⟨case, 0, false⟩).1 := by
  have hworlds : (aheadBy clock).worlds ⟨case, clock, signalled⟩ ⟨case, 0, false⟩ :=
    ⟨rfl, (Nat.zero_add clock).symm⟩
  unfold measure
  cases case.skipReason with
  | some reason => rfl
  | none =>
    have hanswers := ((aheadBy clock).measure hworlds settings limit).answers
    exact congrArg (Option.map _) hanswers

theorem measure_of_le (hlimit : limit ≤ limit') {bench : Bench}
    (h : (measure settings limit bench).1 = some outcome) :
    measure settings limit' bench = measure settings limit bench := by
  unfold measure at h ⊢
  cases hskip : bench.case.skipReason with
  | some reason => rfl
  | none =>
    simp only [hskip] at h ⊢
    rcases hmeasure : Sampler.measure settings subject limit bench with ⟨answer, after⟩
    rw [hmeasure] at h
    cases answer with
    | none => cases h
    | some answer => rw [Sampler.measure_of_le hlimit hmeasure]

theorem hasOutcome_of_measure
    (h : (measure settings limit ⟨case, clock, signalled⟩).1 = some outcome) :
    case.HasOutcome settings outcome :=
  ⟨limit, (measure_eq_alone settings limit clock signalled case).symm.trans h⟩

theorem name_of_measure {bench : Bench} (h : (measure settings limit bench).1 = some outcome) :
    outcome.name = bench.case.name := by
  unfold measure at h
  split at h
  · cases h
    rfl
  · obtain ⟨answer, -, rfl⟩ := Option.map_eq_some_iff.mp h
    rfl

end Bench

namespace Case.HasOutcome

theorem name_eq (h : case.HasOutcome settings outcome) : outcome.name = case.name := by
  obtain ⟨limit, hmeasure⟩ := h
  exact Bench.name_of_measure hmeasure

/-- A case has one outcome at most. -/
theorem rightUnique (settings : SamplingSettings α) :
    Relator.RightUnique (Case.HasOutcome settings) := by
  rintro case outcome outcome' ⟨limit, hmeasure⟩ ⟨limit', hmeasure'⟩
  have hsame : some outcome = some outcome' := by
    calc
      some outcome = (Bench.measure settings limit ⟨case, 0, false⟩).1 := hmeasure.symm
      _ = (Bench.measure settings (max limit limit') ⟨case, 0, false⟩).1 := by
        rw [Bench.measure_of_le (Nat.le_max_left _ _) hmeasure]
      _ = (Bench.measure settings limit' ⟨case, 0, false⟩).1 := by
        rw [Bench.measure_of_le (Nat.le_max_right _ _) hmeasure']
      _ = some outcome' := hmeasure'
  exact Option.some.inj hsame

end Case.HasOutcome

/-- Cases that are measured within a limit have outcomes. -/
theorem exists_hasOutcome {cases : List Case} (limit : Nat)
    (h : cases.all fun case ↦ (Bench.measure settings limit ⟨case, 0, false⟩).1.isSome) :
    ∀ case ∈ cases, ∃ outcome, case.HasOutcome settings outcome := by
  intro case hmem
  obtain ⟨outcome, houtcome⟩ := Option.isSome_iff_exists.mp (List.all_eq_true.mp h case hmem)
  exact ⟨outcome, limit, houtcome⟩

/-- Cases that come to an end alone come to an end on every clock, all within one limit. -/
theorem exists_limit {cases : List Case}
    (h : ∀ case ∈ cases, ∃ outcome, case.HasOutcome settings outcome) :
    ∃ limit, ∀ case ∈ cases, ∀ clock signalled, ∃ outcome,
      (Bench.measure settings limit ⟨case, clock, signalled⟩).1 = some outcome := by
  induction cases with
  | nil => exact ⟨0, fun case hmem ↦ absurd hmem List.not_mem_nil⟩
  | cons first rest ih =>
    obtain ⟨outcome, limit, hfirst⟩ := h first List.mem_cons_self
    obtain ⟨limit', hrest⟩ := ih fun case hmem ↦ h case (List.mem_cons_of_mem _ hmem)
    refine ⟨max limit limit', fun case hmem clock signalled ↦ ?_⟩
    rcases List.mem_cons.mp hmem with rfl | hmem
    · rw [← Bench.measure_eq_alone settings limit clock signalled case] at hfirst
      exact ⟨outcome, by rw [Bench.measure_of_le (Nat.le_max_left _ _) hfirst, hfirst]⟩
    · obtain ⟨outcome, hcase⟩ := hrest case hmem clock signalled
      exact ⟨outcome, by rw [Bench.measure_of_le (Nat.le_max_right _ _) hcase, hcase]⟩

end PushBench
