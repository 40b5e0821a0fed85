import PushBench.Proofs.Sampling.Limit
import PushBench.Proofs.Sampling.Row
import Mathlib.Algebra.Order.BigOperators.Group.List

/-!
# Sampling comes to an end

Where a body takes time whenever it succeeds, every batch takes up some of the budget. There are no
more samples than the budget has nanoseconds, or one sample if it has none.
-/

namespace PushBench

universe u

variable {α : Type} [Scalar α] {ω : Type u}

namespace Subject

/-- From some worlds on, an invocation that succeeds takes time and leads to such a world again. -/
structure Progresses (subject : Subject ω) (inside : ω → Prop) : Prop where
  stays {world after : ω} : inside world → subject.invoke world = (.ok (), after) → inside after
  now_lt {world after : ω} : inside world → subject.invoke world = (.ok (), after) →
    subject.now world < subject.now after

namespace Progresses

variable {subject : Subject ω} {inside : ω → Prop} {world after : ω} {count : Nat}

/-- Every invocation in a row takes time. -/
theorem invokeTimes (h : subject.Progresses inside) (hworld : inside world)
    (hcalls : subject.invokeTimes count world = (.ok (), after)) :
    inside after ∧ subject.now world + count ≤ subject.now after := by
  induction count generalizing world with
  | zero =>
    cases hcalls
    exact ⟨hworld, Nat.le_refl _⟩
  | succ count ih =>
    rw [Subject.invokeTimes] at hcalls
    split at hcalls
    next between hinvoke =>
      have hlt := h.now_lt hworld hinvoke
      obtain ⟨hafter, hle⟩ := ih (h.stays hworld hinvoke) hcalls
      exact ⟨hafter, by omega⟩
    next => cases hcalls

/-- The error of a row of invocations is the error of one of them. -/
theorem exists_invoke_eq (h : subject.Progresses inside) (hworld : inside world) {error : CaseError}
    (hcalls : subject.invokeTimes count world = (.error error, after)) :
    ∃ failing, inside failing ∧ subject.invoke failing = (.error error, after) := by
  induction count generalizing world with
  | zero => cases hcalls
  | succ count ih =>
    rw [Subject.invokeTimes] at hcalls
    split at hcalls
    next between hinvoke => exact ih (h.stays hworld hinvoke) hcalls
    next error' between hinvoke =>
      cases hcalls
      exact ⟨world, hworld, hinvoke⟩

end Progresses

end Subject

namespace Sampler

variable {settings : SamplingSettings α} {subject : Subject ω} {inside : ω → Prop}
  {start warmed world after : ω} {first limit : Nat} {sampler : Sampler α}

namespace Follows

/-- Every sample has taken up some time. -/
theorem length_le (h : Follows settings subject warmed first sampler world) (hfirst : 1 ≤ first)
    (hclock : subject.ClockAdvances) (hprogress : subject.Progresses inside)
    (hwarmed : inside warmed) :
    sampler.samples.length ≤ (sampler.samples.map Sample.elapsed).sum := by
  have hiterations : ∀ count ∈ sampler.samples.map Sample.iterations, 1 ≤ count := by
    intro count hmem
    apply one_le_of_mem_batches settings hfirst
    rw [← h.batches]
    exact List.mem_append_left _ hmem
  have htime := (hprogress.invokeTimes hwarmed h.timed.invokeTimes).2
  rw [h.timed.now_eq hclock] at htime
  calc
    sampler.samples.length = (sampler.samples.map Sample.iterations).length :=
      (List.length_map Sample.iterations).symm
    _ ≤ (sampler.samples.map Sample.iterations).sum :=
      List.length_le_sum_of_one_le _ hiterations
    _ ≤ (sampler.samples.map Sample.elapsed).sum := Nat.le_of_add_le_add_left htime

/-- The loop comes to an end within as many samples as the budget has nanoseconds left. -/
theorem exists_sampleUntilOver_eq (h : Follows settings subject warmed first sampler world)
    (hfirst : 1 ≤ first) (hclock : subject.ClockAdvances) (hprogress : subject.Progresses inside)
    (hwarmed : inside warmed) (hpositive : 1 ≤ limit)
    (hlimit : settings.budget ≤ limit + sampler.samples.length) :
    ∃ answer after, sampleUntilOver subject limit sampler world = (some answer, after) := by
  induction limit generalizing sampler world with
  | zero => cases hpositive
  | succ limit ih =>
    rw [sampleUntilOver]
    split
    next error taken between htake => exact ⟨_, _, rfl⟩
    next taken between htake =>
      obtain ⟨hfollows, sample, hsamples⟩ := h.takeSample hfirst htake
      split
      next convergence hconvergence => exact ⟨_, _, rfl⟩
      next hopen =>
        have hne : taken.samples ≠ [] := by simp [hsamples]
        have hunspent := (hfollows.undecided_of_convergence hclock hne hopen).2
        have hlength := hfollows.length_le hfirst hclock hprogress hwarmed
        have hmore : taken.samples.length = sampler.samples.length + 1 := by simp [hsamples]
        unfold SamplingSettings.Spent at hunspent
        apply ih hfollows
        · omega
        · omega

/-- The loop takes no more samples than its limit. -/
theorem length_samples_le (h : Follows settings subject warmed first sampler world)
    (hfirst : 1 ≤ first) {measurement : Measurement α}
    (hover : sampleUntilOver subject limit sampler world = (some (.ok measurement), after)) :
    measurement.samples.length ≤ sampler.samples.length + limit := by
  induction limit generalizing sampler world with
  | zero => cases hover
  | succ limit ih =>
    rw [sampleUntilOver] at hover
    split at hover
    next => cases hover
    next taken between htake =>
      obtain ⟨hfollows, sample, hsamples⟩ := h.takeSample hfirst htake
      have hmore : taken.samples.length = sampler.samples.length + 1 := by simp [hsamples]
      split at hover
      next convergence hconvergence =>
        cases hover
        simp only [finish]
        omega
      next hopen =>
        have hlength := ih hfollows hover
        omega

end Follows

/-- Sampling comes to an end within as many samples as the budget has nanoseconds, or one. -/
theorem exists_measure_eq (hclock : subject.ClockAdvances) (hprogress : subject.Progresses inside)
    (hstart : inside start) (hpositive : 1 ≤ limit) (hlimit : settings.budget ≤ limit) :
    ∃ answer after, measure settings subject limit start = (some answer, after) := by
  rw [measure]
  split
  next error sampler warmed hwarmUp => exact ⟨_, _, rfl⟩
  next sampler warmed hwarmUp =>
    obtain ⟨hinvoke, hsamples, hfollows⟩ := Follows.of_warmUp hwarmUp
    have hwarmed := hprogress.stays hstart hinvoke
    apply hfollows.exists_sampleUntilOver_eq (one_le_batchFor settings _) hclock hprogress hwarmed
      hpositive
    simpa [hsamples] using hlimit

/-- The error of a measurement is the error of an invocation. -/
theorem exists_invoke_eq (hprogress : subject.Progresses inside) (hstart : inside start)
    {error : CaseError}
    (hmeasure : measure settings subject limit start = (some (.error error), after)) :
    ∃ failing, inside failing ∧ subject.invoke failing = (.error error, after) := by
  obtain ⟨count, hrow, -⟩ := exists_row_of_measure hmeasure
  exact hprogress.exists_invoke_eq hstart hrow

/-- There are no more samples than the limit. -/
theorem length_samples_le {measurement : Measurement α}
    (h : measure settings subject limit start = (some (.ok measurement), after)) :
    measurement.samples.length ≤ limit := by
  rw [measure] at h
  split at h
  next => cases h
  next sampler warmed hwarmUp =>
    obtain ⟨-, hsamples, hfollows⟩ := Follows.of_warmUp hwarmUp
    have hlength := hfollows.length_samples_le (one_le_batchFor settings _) h
    simpa [hsamples] using hlength

end Sampler

/-- Where every invocation fails or takes time, sampling comes to an end, whatever its settings are:
the target may be negative or no number, and the enforced number of samples beyond reach. As many
samples as the budget has nanoseconds are enough, or one if it has none, and every greater limit
leads to the same answer. This is a measurement of no more samples, or the error of the last
invocation, before which all others succeeded. -/
theorem sampling_ends_within_budget (settings : SamplingSettings α) {subject : Subject ω}
    {inside : ω → Prop} (hclock : subject.ClockAdvances) (hprogress : subject.Progresses inside)
    {start : ω} (hstart : inside start) :
    ∃ answer after,
      (∀ limit, max settings.budget 1 ≤ limit →
        Sampler.measure settings subject limit start = (some answer, after)) ∧
      (∀ measurement, answer = .ok measurement →
        measurement.samples.length ≤ max settings.budget 1) ∧
      ∃ answers, Sampler.measure settings subject.logged (max settings.budget 1) (start, []) =
          (some answer, after, answers) ∧
        Subject.Log.EndsIn (Sampler.rowEnd (some answer)) answers := by
  have hends : ∃ answer after,
      Sampler.measure settings subject (max settings.budget 1) start = (some answer, after) :=
    Sampler.exists_measure_eq hclock hprogress hstart (Nat.le_max_right _ _) (Nat.le_max_left _ _)
  obtain ⟨answer, after, hmeasure⟩ := hends
  refine ⟨answer, after, ?_, ?_, Sampler.exists_logged_measure_eq hmeasure⟩
  · intro limit hlimit
    exact Sampler.measure_of_le hlimit hmeasure
  · rintro measurement rfl
    exact Sampler.length_samples_le hmeasure

/-- With a target that is no number and more samples required than can ever be taken, a body of one
nanosecond is sampled as often as the budget has nanoseconds. -/
theorem sampling_ends_within_budget_unreachable :
    let settings : SamplingSettings Float := ⟨0, 18446744073709551615, 0.0 / 0.0, 5, .standard⟩
    let subject := (Script.steady 1).subject
    ∃ (measurement : Measurement Float) (after : Script.World),
      measurement.samples.length = 5 ∧ measurement.convergence = .budgetExhausted ∧
        ∀ limit, 5 ≤ limit →
          Sampler.measure settings subject limit ⟨0, 0⟩ = (some (.ok measurement), after) := by
  intro settings subject
  let inside : Script.World → Prop := fun _ ↦ True
  have hprogress : subject.Progresses inside :=
    ⟨fun _ _ ↦ trivial, fun {world after} _ hinvoke ↦ by
      cases hinvoke
      exact Nat.lt_succ_self _⟩
  have hstart : inside ⟨0, 0⟩ := trivial
  obtain ⟨answer, after, hends, -, -⟩ :=
    sampling_ends_within_budget settings (Script.subject_clockAdvances _) hprogress hstart
  have hrun : (Sampler.measure settings subject 5 ⟨0, 0⟩).1.map (fun answer ↦
      answer.toOption.map fun measurement ↦
        (measurement.samples.length, measurement.convergence)) =
      some (some (5, .budgetExhausted)) := by decide +kernel
  have hfive := hends 5 (Nat.le_refl 5)
  rw [hfive] at hrun
  cases answer with
  | error error => cases hrun
  | ok measurement =>
    obtain ⟨hlength, hconvergence⟩ := Prod.mk.inj (Option.some.inj (Option.some.inj hrun))
    exact ⟨measurement, after, hlength, hconvergence, hends⟩

end PushBench
