import PushBench.Proofs.Sampling.Accounting
import PushBench.Proofs.Suite.FirstFailure
import PushBench.Proofs.Suite.Isolation

/-!
# Measurements of a suite

Every completed case of a suite was sampled by itself. Its statistics are those of its samples, of
which there is at least one, and its rate is the one of its mean.
-/

namespace PushBench

variable {α : Type} [Scalar α] {settings : SamplingSettings α} {case : Case}
  {outcome : CaseOutcome α} {measurement : Measurement α}

/-- The rate of samples is the one of their mean. -/
theorem Statistics.rate_ofSamples {samples : List Sample} (h : samples ≠ []) (level : Confidence) :
    (ofSamples samples level : Statistics α).rate =
      perSecond (ofSamples samples level : Statistics α).mean := by
  cases samples with
  | nil => exact absurd rfl h
  | cons sample rest => rfl

/-- The measurement of a completed case accounts for all that happened on its bench. -/
theorem Case.HasOutcome.accounts (h : case.HasOutcome settings outcome)
    (hstatus : outcome.status = .completed measurement) :
    ∃ after, measurement.Accounts settings Bench.subject ⟨case, 0, false⟩ after := by
  obtain ⟨limit, hmeasure⟩ := h
  unfold Bench.measure at hmeasure
  split at hmeasure
  next =>
    cases hmeasure
    cases hstatus
  next =>
    rcases hsampled : Sampler.measure settings Bench.subject limit ⟨case, 0, false⟩ with
      ⟨answer, after⟩
    rw [hsampled] at hmeasure
    obtain ⟨answer, rfl, rfl⟩ := Option.map_eq_some_iff.mp hmeasure
    obtain rfl := CaseStatus.eq_ok_of_ofSampling hstatus
    exact ⟨after, Sampler.accounts_of_measure Bench.subject_clockAdvances hsampled⟩

namespace Registry.RunsTo

variable {registry : Registry} {result : SuiteResult α}

/-- Every outcome of a suite is the one that a case of its registry has alone. -/
theorem exists_hasOutcome (h : registry.RunsTo settings result) (hmem : outcome ∈ result.outcomes) :
    ∃ case ∈ registry.cases, case.HasOutcome settings outcome := by
  obtain ⟨ω, limit, surroundings, state, run, hrun, rfl⟩ := h
  obtain ⟨pass, hpass, rfl⟩ := Option.map_eq_some_iff.mp hrun
  obtain ⟨case, hcase, houtcome⟩ :=
    exists_of_forall₂_of_mem (runCases_faithful hpass).outcomes.flip hmem
  exact ⟨case, List.mem_of_mem_take hcase, houtcome⟩

theorem accounts (h : registry.RunsTo settings result) (hmem : outcome ∈ result.outcomes)
    (hstatus : outcome.status = .completed measurement) :
    ∃ case ∈ registry.cases, ∃ after,
      measurement.Accounts settings Bench.subject ⟨case, 0, false⟩ after := by
  obtain ⟨case, hcase, houtcome⟩ := h.exists_hasOutcome hmem
  exact ⟨case, hcase, houtcome.accounts hstatus⟩

end Registry.RunsTo

end PushBench
