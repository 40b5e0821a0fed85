import PushBench.Proofs.Sampling.Calls
import PushBench.Script

/-!
# What a measurement accounts for

Between two samples the sampler's fields are functions of the samples it has taken, and the samples
account for every invocation and every nanosecond since the warm-up. A measurement therefore is a
function of its samples, and the loop stops at the first sample at which it may.
-/

namespace PushBench

universe u

variable {α : Type} [Scalar α] {ω : Type u}

/-! ## When sampling may stop -/

namespace SamplingSettings

variable (settings : SamplingSettings α) (samples : List Sample)

/-- There are enough samples, and their relative margin is within the target. -/
def Reached : Prop :=
  settings.enforcedMinSamples ≤ samples.length ∧
    (Statistics.ofSamples (α := α) samples settings.confidence).withinMargin settings.target = true

omit [Scalar α] in
/-- The samples take up the budget. -/
def Spent : Prop := settings.budget ≤ (samples.map Sample.elapsed).sum

instance : Decidable (settings.Reached samples) := inferInstanceAs (Decidable (_ ∧ _))

omit [Scalar α] in
instance : Decidable (settings.Spent samples) := inferInstanceAs (Decidable (_ ≤ _))

/-- Sampling goes on after the samples. -/
def Undecided : Prop := ¬settings.Reached samples ∧ ¬settings.Spent samples

end SamplingSettings

namespace Sampler

theorem one_le_batchFor (settings : SamplingSettings α) (period : α) :
    1 ≤ batchFor settings period := by
  unfold batchFor
  split
  · exact Nat.le_refl 1
  · exact Nat.le_max_right _ _

/-- The sizes of batches: the first one, and those that samples ask for. -/
theorem one_le_of_mem_batches (settings : SamplingSettings α) {samples : List Sample}
    {first batch : Nat} (hfirst : 1 ≤ first)
    (hbatch : batch ∈ first :: samples.map fun sample ↦ batchFor settings (sample.period : α)) :
    1 ≤ batch := by
  rcases List.mem_cons.mp hbatch with rfl | hmem
  · exact hfirst
  · obtain ⟨sample, -, rfl⟩ := List.mem_map.mp hmem
    exact one_le_batchFor settings _

/-- The size of the first batch after a warm-up that starts in a world. -/
def firstBatch (settings : SamplingSettings α) (subject : Subject ω) (start : ω) : Nat :=
  batchFor settings
    (Scalar.ofNat (subject.now (subject.invoke start).2 - subject.now start) : α)

end Sampler

/-- What is true of a measurement of a subject in the world `start` that left the world `after`. -/
structure Measurement.Accounts (measurement : Measurement α) (settings : SamplingSettings α)
    (subject : Subject ω) (start after : ω) : Prop where
  warmUp_eq : (subject.invoke start).1 = .ok ()
  samples_ne_nil : measurement.samples ≠ []
  one_le_iterations {sample : Sample} : sample ∈ measurement.samples → 1 ≤ sample.iterations
  /-- The warm-up is one invocation. It sizes the first batch by its time, and every sample sizes
  the batch after it by its period. -/
  batches : measurement.samples.map Sample.iterations =
    Sampler.firstBatch settings subject start ::
      measurement.samples.dropLast.map fun sample ↦
        Sampler.batchFor settings (sample.period : α)
  /-- The samples were taken in a row from the end of the warm-up. -/
  timed : subject.Timed (subject.invoke start).2 measurement.samples after
  statistics_eq : measurement.statistics = .ofSamples measurement.samples settings.confidence
  elapsed_eq : measurement.elapsed = (measurement.samples.map Sample.elapsed).sum
  converged_iff : measurement.convergence = .converged ↔ settings.Reached measurement.samples
  budget_le_elapsed : measurement.convergence = .budgetExhausted →
    settings.budget ≤ measurement.elapsed
  /-- The loop stops at the first sample where it may. -/
  not_over_before {before : List Sample} : before <+: measurement.samples → before ≠ [] →
    before ≠ measurement.samples → settings.Undecided before

/-! ## The loop -/

namespace Sampler

/-- A sampler in the loop, after a warm-up that left the world `warmed` and sized the first
batch. -/
structure Follows (settings : SamplingSettings α) (subject : Subject ω) (warmed : ω) (first : Nat)
    (sampler : Sampler α) (world : ω) : Prop where
  settings_eq : sampler.settings = settings
  timed : subject.Timed warmed sampler.samples world
  /-- The first batch is the one of the warm-up, and every sample sizes the batch after it. -/
  batches : sampler.samples.map Sample.iterations ++ [sampler.batch] =
    first :: sampler.samples.map fun sample ↦ batchFor settings (sample.period : α)
  statistics_eq : sampler.statistics = .ofSamples sampler.samples settings.confidence
  startedAt_eq : sampler.startedAt =
    if sampler.samples = [] then none else some (subject.now warmed)

namespace Follows

variable {settings : SamplingSettings α} {subject : Subject ω} {start warmed world after : ω}
  {first : Nat} {sampler taken : Sampler α}

theorem one_le_batch (h : Follows settings subject warmed first sampler world)
    (hfirst : 1 ≤ first) : 1 ≤ sampler.batch := by
  apply one_le_of_mem_batches settings hfirst
  rw [← h.batches]
  exact List.mem_append_right _ (List.mem_singleton.mpr rfl)

/-- The first batch starts when the warm-up is over, and later starts are not kept. -/
theorem startingAt_eq (h : Follows settings subject warmed first sampler world) :
    (sampler.startingAt (subject.now world)).startedAt = some (subject.now warmed) := by
  have hstarted := h.startedAt_eq
  by_cases hsamples : sampler.samples = []
  · have htimed := h.timed
    rw [hsamples] at htimed
    rw [if_pos hsamples] at hstarted
    simp [startingAt, hstarted, htimed.eq_start]
  · rw [if_neg hsamples] at hstarted
    simp [startingAt, hstarted]

theorem takeSample (h : Follows settings subject warmed first sampler world) (hfirst : 1 ≤ first)
    (htake : sampler.takeSample subject world = (.ok (), taken, after)) :
    Follows settings subject warmed first taken after ∧
      ∃ sample, taken.samples = sampler.samples ++ [sample] := by
  have hbatch := h.one_le_batch hfirst
  have hstarted := h.startingAt_eq
  unfold Sampler.takeSample at htake
  split at htake
  next => cases htake
  next after' hcalls =>
    have hsample : Sample.ofBatch (subject.now after' - subject.now world) sampler.batch =
        ⟨subject.now after' - subject.now world, sampler.batch⟩ := by
      rw [Sample.ofBatch, Nat.max_eq_left hbatch]
    simp only [Prod.mk.injEq, true_and, hsample] at htake
    obtain ⟨rfl, rfl⟩ := htake
    have hbatches := h.batches
    refine ⟨?_, _, rfl⟩
    exact {
      settings_eq := h.settings_eq
      timed := h.timed.concat hcalls rfl
      batches := by
        simp only [record, sizedBy, startingAt, h.settings_eq, List.map_append, List.map_cons,
          List.map_nil]
        rw [hbatches, List.cons_append]
      statistics_eq := by simp only [record, sizedBy, startingAt, h.settings_eq]
      startedAt_eq := by simpa [record, sizedBy] using hstarted }

/-- The warm-up leaves a sampler that enters the loop. -/
theorem of_warmUp
    (hwarmUp : (Sampler.start settings).warmUp subject start = (.ok (), sampler, world)) :
    subject.invoke start = (.ok (), world) ∧ sampler.samples = [] ∧
      Follows settings subject world (firstBatch settings subject start) sampler world := by
  unfold warmUp at hwarmUp
  split at hwarmUp
  next => cases hwarmUp
  next world' hinvoke =>
    simp only [Prod.mk.injEq, true_and] at hwarmUp
    obtain ⟨rfl, rfl⟩ := hwarmUp
    refine ⟨hinvoke, rfl, ?_⟩
    exact {
      settings_eq := rfl
      timed := .nil
      batches := by simp [firstBatch, hinvoke, sizedBy, Sampler.start]
      statistics_eq := rfl
      startedAt_eq := rfl }

theorem elapsed_eq (h : Follows settings subject warmed first sampler world)
    (hclock : subject.ClockAdvances) (hsamples : sampler.samples ≠ []) :
    sampler.elapsed (subject.now world) = (sampler.samples.map Sample.elapsed).sum := by
  have hstarted := h.startedAt_eq
  rw [if_neg hsamples] at hstarted
  have hnow := h.timed.now_eq hclock
  simp only [elapsed, hstarted]
  omega

/-- The sampler stops when its samples say so. -/
theorem convergence_eq (h : Follows settings subject warmed first sampler world)
    (hclock : subject.ClockAdvances) (hsamples : sampler.samples ≠ []) :
    sampler.convergence (subject.now world) =
      if settings.Reached sampler.samples then some .converged
      else if settings.Spent sampler.samples then some .budgetExhausted
      else none := by
  unfold convergence
  rw [h.elapsed_eq hclock hsamples, h.statistics_eq, h.settings_eq]
  rfl

theorem undecided_of_convergence (h : Follows settings subject warmed first sampler world)
    (hclock : subject.ClockAdvances) (hsamples : sampler.samples ≠ [])
    (hopen : sampler.convergence (subject.now world) = none) :
    settings.Undecided sampler.samples := by
  rw [h.convergence_eq hclock hsamples] at hopen
  split at hopen
  next => cases hopen
  next hreached =>
    split at hopen
    next => cases hopen
    next hspent => exact ⟨hreached, hspent⟩

theorem cases_of_convergence (h : Follows settings subject warmed first sampler world)
    (hclock : subject.ClockAdvances) (hsamples : sampler.samples ≠ []) {convergence : Convergence}
    (hover : sampler.convergence (subject.now world) = some convergence) :
    convergence = .converged ∧ settings.Reached sampler.samples ∨
      convergence = .budgetExhausted ∧ ¬settings.Reached sampler.samples ∧
        settings.Spent sampler.samples := by
  rw [h.convergence_eq hclock hsamples] at hover
  split at hover
  next hreached => exact .inl ⟨(Option.some.inj hover).symm, hreached⟩
  next hreached =>
    split at hover
    next hspent => exact .inr ⟨(Option.some.inj hover).symm, hreached, hspent⟩
    next => cases hover

theorem batches_eq (h : Follows settings subject warmed first sampler world)
    (hsamples : sampler.samples ≠ []) :
    sampler.samples.map Sample.iterations =
      first :: sampler.samples.dropLast.map fun sample ↦
        batchFor settings (sample.period : α) := by
  have hbatches := congrArg List.dropLast h.batches
  rw [List.dropLast_concat, List.dropLast_cons_of_ne_nil (by simpa using hsamples)] at hbatches
  rw [hbatches, List.map_dropLast]

theorem finish_accounts
    (h : Follows settings subject (subject.invoke start).2
      (firstBatch settings subject start) sampler world)
    (hwarmUp : (subject.invoke start).1 = .ok ()) (hclock : subject.ClockAdvances)
    (hsamples : sampler.samples ≠ [])
    (hbefore : ∀ before, before <+: sampler.samples → before ≠ [] → before ≠ sampler.samples →
      settings.Undecided before)
    {convergence : Convergence}
    (hover : sampler.convergence (subject.now world) = some convergence) :
    (sampler.finish convergence (subject.now world)).Accounts settings subject start world := by
  have helapsed := h.elapsed_eq hclock hsamples
  have hend := h.cases_of_convergence hclock hsamples hover
  exact {
    samples_ne_nil := hsamples
    warmUp_eq := hwarmUp
    one_le_iterations := fun {sample} hmem ↦ by
      have hbatch : sample.iterations ∈ sampler.samples.map Sample.iterations ++ [sampler.batch] :=
        List.mem_append_left _ (List.mem_map_of_mem hmem)
      rw [h.batches] at hbatch
      exact one_le_of_mem_batches settings (one_le_batchFor settings _) hbatch
    batches := h.batches_eq hsamples
    timed := h.timed
    statistics_eq := h.statistics_eq
    elapsed_eq := helapsed
    converged_iff := by
      rcases hend with ⟨rfl, hreached⟩ | ⟨rfl, hreached, hspent⟩
      · exact iff_of_true rfl hreached
      · exact iff_of_false (by simp [finish]) hreached
    budget_le_elapsed := by
      intro hexhausted
      rcases hend with ⟨rfl, hreached⟩ | ⟨rfl, hreached, hspent⟩
      · cases hexhausted
      · exact Nat.le_trans hspent (Nat.le_of_eq helapsed.symm)
    not_over_before := fun hprefix hne hproper ↦ hbefore _ hprefix hne hproper }

theorem sampleUntilOver_accounts
    (h : Follows settings subject (subject.invoke start).2
      (firstBatch settings subject start) sampler world)
    (hwarmUp : (subject.invoke start).1 = .ok ()) (hclock : subject.ClockAdvances)
    (hopen : ∀ before, before <+: sampler.samples → before ≠ [] → settings.Undecided before)
    {limit : Nat} {measurement : Measurement α}
    (hover : sampleUntilOver subject limit sampler world = (some (.ok measurement), after)) :
    measurement.Accounts settings subject start after := by
  -- Each round hands on that sampling was undecided after every sample so far.
  induction limit generalizing sampler world with
  | zero => cases hover
  | succ limit ih =>
    rw [sampleUntilOver] at hover
    split at hover
    next => cases hover
    next taken between htake =>
      obtain ⟨hfollows, sample, hsamples⟩ :=
        h.takeSample (one_le_batchFor settings _) htake
      have hne : taken.samples ≠ [] := by simp [hsamples]
      have hbefore : ∀ before, before <+: taken.samples → before ≠ [] → before ≠ taken.samples →
          settings.Undecided before := by
        intro before hprefix hbefore hproper
        rw [hsamples] at hprefix hproper
        rcases List.prefix_concat_iff.mp hprefix with heq | hprefix
        · exact absurd heq hproper
        · exact hopen before hprefix hbefore
      split at hover
      next convergence hconvergence =>
        cases hover
        exact hfollows.finish_accounts hwarmUp hclock hne hbefore hconvergence
      next hconvergence =>
        refine ih hfollows (fun before hprefix hbefore' ↦ ?_) hover
        by_cases heq : before = taken.samples
        · exact heq ▸ hfollows.undecided_of_convergence hclock hne hconvergence
        · exact hbefore before hprefix hbefore' heq

end Follows

end Sampler

/-- All invocations of a measured subject: the warm-up and those of the samples. -/
theorem Measurement.Accounts.invokeTimes {measurement : Measurement α}
    {settings : SamplingSettings α} {subject : Subject ω} {start after : ω}
    (h : measurement.Accounts settings subject start after) :
    subject.invokeTimes (1 + (measurement.samples.map Sample.iterations).sum) start =
      (.ok (), after) := by
  have hwarmUp : subject.invokeTimes 1 start = (.ok (), (subject.invoke start).2) := by
    rw [Subject.invokeTimes_one, ← h.warmUp_eq]
  rw [Subject.invokeTimes_add hwarmUp]
  exact h.timed.invokeTimes

theorem Sampler.accounts_of_measure {settings : SamplingSettings α} {subject : Subject ω}
    (hclock : subject.ClockAdvances) {limit : Nat} {start after : ω} {measurement : Measurement α}
    (h : measure settings subject limit start = (some (.ok measurement), after)) :
    measurement.Accounts settings subject start after := by
  unfold measure at h
  split at h
  next => cases h
  next sampler warmed hwarmUp =>
    obtain ⟨hinvoke, hsamples, hfollows⟩ := Follows.of_warmUp hwarmUp
    have hwarmed : warmed = (subject.invoke start).2 := by rw [hinvoke]
    subst hwarmed
    refine hfollows.sampleUntilOver_accounts (by rw [hinvoke]) hclock ?_ h
    intro before hprefix hbefore
    rw [hsamples] at hprefix
    exact absurd (List.prefix_nil.mp hprefix) hbefore

/-- Whatever the body of a measured subject does, as long as it never sets the clock back: if the
sampling loop ends with a measurement, the measurement accounts for the whole run, and the body was
invoked once for the warm-up and once for every counted iteration, and succeeded every time. -/
theorem sampling_accounts {settings : SamplingSettings α} {subject : Subject ω}
    (hclock : subject.ClockAdvances) {limit : Nat} {start after : ω} {measurement : Measurement α}
    (h : Sampler.measure settings subject limit start = (some (.ok measurement), after)) :
    measurement.Accounts settings subject start after ∧
      Sampler.measure settings subject.logged limit (start, []) =
        (some (.ok measurement), after,
          List.replicate (1 + (measurement.samples.map Sample.iterations).sum) (.ok ())) := by
  have haccounts := Sampler.accounts_of_measure hclock h
  refine ⟨haccounts, ?_⟩
  have hlogged : subject.logged.ClockAdvances := fun world ↦ hclock world.1
  have hworlds : subject.loggedSimulation.worlds (start, []) start := rfl
  have hagree := subject.loggedSimulation.measure hworlds settings limit
  rcases hmeasure : Sampler.measure settings subject.logged limit (start, []) with
    ⟨answer, after', log⟩
  rw [hmeasure, h] at hagree
  obtain ⟨hanswer, hworld⟩ := hagree
  have hanswer : answer = some (.ok measurement) := hanswer
  have hworld : after' = after := hworld
  subst hanswer hworld
  have hcalls := (Sampler.accounts_of_measure hlogged hmeasure).invokeTimes
  rw [Subject.logged_invokeTimes haccounts.invokeTimes [], List.nil_append] at hcalls
  rw [(Prod.mk.inj (Prod.mk.inj hcalls).2).2]

theorem Script.subject_clockAdvances (script : Script) : script.subject.ClockAdvances :=
  fun _ ↦ Nat.le_add_right _ _

/-- A body that takes 10, 10, 20 and 15 nanoseconds in turn spends a budget of 60 with its second
batch, which is smaller than the first. -/
theorem sampling_accounts_budget_spent :
    let settings : SamplingSettings Float := ⟨25, 2, 100.0, 60, .standard⟩
    let subject := (Script.ofEvents #[10, 10, 20, 15] none []).subject
    ∃ (measurement : Measurement Float) (after : Script.World),
      measurement.samples = [⟨45, 3⟩, ⟨20, 2⟩] ∧
        measurement.convergence = .budgetExhausted ∧
        measurement.Accounts settings subject ⟨0, 0⟩ after ∧
        Sampler.measure settings subject.logged 2 (⟨0, 0⟩, []) =
          (some (.ok measurement), after, List.replicate 6 (.ok ())) := by
  intro settings subject
  have hrun : ((Sampler.measure settings subject 2 ⟨0, 0⟩).1.bind Except.toOption).map
      (fun measurement ↦ (measurement.samples, measurement.convergence)) =
        some ([⟨45, 3⟩, ⟨20, 2⟩], .budgetExhausted) := by decide +kernel
  obtain ⟨measurement, hanswer, hparts⟩ := Option.map_eq_some_iff.mp hrun
  obtain ⟨answer, hsome, hok⟩ := Option.bind_eq_some_iff.mp hanswer
  cases answer with
  | error error => cases hok
  | ok result =>
    cases hok
    obtain ⟨hsamples, hconvergence⟩ := Prod.mk.inj hparts
    have haccounts := sampling_accounts (Script.subject_clockAdvances _)
      (Prod.ext hsome rfl : Sampler.measure settings subject 2 ⟨0, 0⟩ =
        (some (.ok measurement), (Sampler.measure settings subject 2 ⟨0, 0⟩).2))
    rw [hsamples] at haccounts
    exact ⟨measurement, _, hsamples, hconvergence, haccounts⟩

end PushBench
