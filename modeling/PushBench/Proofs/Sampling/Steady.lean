import PushBench.Proofs.Sampling.Progress
import PushBench.Proofs.Statistics.Constant

/-!
# Bodies of a constant time

A body that always succeeds in the same time is sampled in batches that differ in nothing but their
sizes. In exact arithmetic its measurement shows that time.
-/

namespace PushBench

universe u

variable {ω : Type u}

namespace Subject

/-- From some worlds on, every invocation succeeds, takes the same time, and leads to such a world
again. -/
structure Steady (subject : Subject ω) (inside : ω → Prop) (time : Nat) : Prop where
  answer_eq {world : ω} : inside world → (subject.invoke world).1 = .ok ()
  stays {world : ω} : inside world → inside (subject.invoke world).2
  now_eq {world : ω} : inside world →
    subject.now (subject.invoke world).2 = subject.now world + time

namespace Steady

variable {subject : Subject ω} {inside : ω → Prop} {time : Nat} {start after : ω}
  {samples : List Sample}

theorem progresses (h : subject.Steady inside time) (htime : 1 ≤ time) :
    subject.Progresses inside where
  stays {world after} hworld hinvoke := by
    have hafter := h.stays hworld
    rwa [hinvoke] at hafter
  now_lt {world after} hworld hinvoke := by
    have hnow : subject.now after = subject.now world + time := by
      rw [← h.now_eq hworld, hinvoke]
    omega

theorem invokeTimes (h : subject.Steady inside time) {world : ω} (hworld : inside world)
    {count : Nat} (hcalls : subject.invokeTimes count world = (.ok (), after)) :
    inside after ∧ subject.now after = subject.now world + count * time := by
  induction count generalizing world with
  | zero =>
    cases hcalls
    exact ⟨hworld, by rw [Nat.zero_mul, Nat.add_zero]⟩
  | succ count ih =>
    rw [Subject.invokeTimes] at hcalls
    split at hcalls
    next between hinvoke =>
      have hbetween := h.stays hworld
      have hnow := h.now_eq hworld
      rw [hinvoke] at hbetween hnow
      obtain ⟨hafter, hrest⟩ := ih hbetween hcalls
      refine ⟨hafter, ?_⟩
      calc
        subject.now after = subject.now between + count * time := hrest
        _ = subject.now world + time + count * time := by rw [hnow]
        _ = subject.now world + (count + 1) * time := by
          rw [Nat.succ_mul, Nat.add_assoc, Nat.add_comm time]
    next => cases hcalls

/-- Every sample has taken as long as its invocations together. -/
theorem elapsed_eq (h : subject.Steady inside time) (hstart : inside start)
    (htimed : subject.Timed start samples after) :
    inside after ∧ ∀ sample ∈ samples, sample.elapsed = sample.iterations * time := by
  induction htimed with
  | nil => exact ⟨hstart, by simp⟩
  | @concat samples sample world after _ hcalls helapsed ih =>
    obtain ⟨hworld, hsamples⟩ := ih
    obtain ⟨hafter, hnow⟩ := h.invokeTimes hworld hcalls
    refine ⟨hafter, fun other hmem ↦ ?_⟩
    rcases List.mem_append.mp hmem with hold | hnew
    · exact hsamples other hold
    · rw [List.mem_singleton.mp hnew, helapsed, hnow, Nat.add_sub_cancel_left]

end Steady

end Subject

/-- A measurement shows a time per invocation: as the mean, with a margin of nothing unless a single
sample leaves it unbounded. -/
structure Measurement.Shows (measurement : Measurement EReal) (time : Nat) : Prop where
  mean_eq : measurement.statistics.mean = (time : EReal)
  margin : measurement.statistics.relativeMargin = 0 ∨
    measurement.samples.length = 1 ∧ measurement.statistics.relativeMargin = ⊤
  rate_eq : measurement.statistics.rate = ((1000000000 / time : ℝ) : EReal)

variable {settings : SamplingSettings EReal} {subject : Subject ω} {inside : ω → Prop} {time : Nat}
  {start after : ω}

theorem Measurement.Accounts.shows {measurement : Measurement EReal}
    (h : measurement.Accounts settings subject start after) (hsteady : subject.Steady inside time)
    (hstart : inside start) (htime : 1 ≤ time) : measurement.Shows time := by
  obtain ⟨more, hlength⟩ := Nat.exists_eq_succ_of_ne_zero
    (mt List.length_eq_zero_iff.mp h.samples_ne_nil)
  have helapsed := (hsteady.elapsed_eq (hsteady.stays hstart) h.timed).2
  have hperiod : ∀ sample ∈ measurement.samples,
      (sample.period : EReal) = ((time : ℝ) : EReal) := by
    intro sample hmem
    have hsample : sample = ⟨sample.iterations * time, sample.iterations⟩ := by
      rw [← helapsed sample hmem]
    rw [hsample]
    exact Exact.period_eq (h.one_le_iterations hmem) time
  have hstatistics := h.statistics_eq.trans
    (Statistics.ofSamples_constant hlength hperiod settings.confidence)
  exact {
    mean_eq := by
      rw [hstatistics, Statistics.mean_ofPeriods_replicate, EReal.coe_natCast]
    margin := by
      rw [hstatistics, Statistics.relativeMargin_ofPeriods_replicate, hlength]
      cases more with
      | zero => exact .inr ⟨rfl, rfl⟩
      | succ more => exact .inl rfl
    rate_eq := by
      rw [hstatistics, Statistics.rate_ofPeriods_replicate]
      exact Nat.cast_pos.mpr htime }

/-- A body of a constant time is measured, and its measurement shows that time. -/
theorem Sampler.exists_measure_shows (hsteady : subject.Steady inside time)
    (hclock : subject.ClockAdvances) (htime : 1 ≤ time) (hstart : inside start) {limit : Nat}
    (hpositive : 1 ≤ limit) (hlimit : settings.budget ≤ limit) :
    ∃ measurement after, measure settings subject limit start = (some (.ok measurement), after) ∧
      measurement.Shows time := by
  have hprogress := hsteady.progresses htime
  obtain ⟨answer, after, hmeasure⟩ := exists_measure_eq hclock hprogress hstart hpositive hlimit
  cases answer with
  | error error =>
    obtain ⟨failing, hfailing, hinvoke⟩ := exists_invoke_eq hprogress hstart hmeasure
    cases (congrArg Prod.fst hinvoke).symm.trans (hsteady.answer_eq hfailing)
  | ok measurement =>
    have haccounts := accounts_of_measure hclock hmeasure
    exact ⟨measurement, after, hmeasure, haccounts.shows hsteady hstart htime⟩

end PushBench
