import PushBench.Proofs.Sampling.Steady
import PushBench.Proofs.Statistics.Whole

/-!
# Uniform measurements

The batch size is computed anew from every sample, by a rounded quotient. For a body of a constant
time it is nevertheless the same from the warm-up on, so that the number of samples, their sizes
and their statistics follow from the settings alone.
-/

namespace PushBench

universe u

variable {ω : Type u} {subject : Subject ω} {inside : ω → Prop} {start world : ω}
  {settings : SamplingSettings Float} {sampler : Sampler Float} {time count : Nat}

namespace Subject.Steady

theorem exists_invokeTimes (h : subject.Steady inside time) (hworld : inside world) (count : Nat) :
    ∃ after, subject.invokeTimes count world = (.ok (), after) := by
  induction count generalizing world with
  | zero => exact ⟨world, rfl⟩
  | succ count ih =>
    obtain ⟨after, hcalls⟩ := ih (h.stays hworld)
    have hinvoke : subject.invoke world = (.ok (), (subject.invoke world).2) := by
      rw [← h.answer_eq hworld]
    exact ⟨after, by rw [Subject.invokeTimes, hinvoke]; exact hcalls⟩

end Subject.Steady

namespace SamplingSettings

/-- How many invocations of a time fill the window. -/
def filling (settings : SamplingSettings Float) (time : Nat) : Nat :=
  if time = 0 then 1 else max (settings.window ⌈/⌉ time) 1

/-- A batch of invocations of a time that fills the window. -/
def fullBatch (settings : SamplingSettings Float) (time : Nat) : Sample :=
  ⟨settings.filling time * time, settings.filling time⟩

/-- The numbers of full batches after which sampling is over. -/
def Suffices (settings : SamplingSettings Float) (time count : Nat) : Prop :=
  1 ≤ count ∧ (settings.enforcedMinSamples ≤ count ∨
    settings.budget ≤ count * (settings.filling time * time))

/-- How sampling ends with a number of full batches that suffices. -/
def convergenceAfter (settings : SamplingSettings Float) (count : Nat) : Convergence :=
  if settings.enforcedMinSamples ≤ count then .converged else .budgetExhausted

theorem one_le_filling (settings : SamplingSettings Float) (time : Nat) :
    1 ≤ settings.filling time := by
  rw [filling]
  split
  · exact Nat.le_refl 1
  · exact Nat.le_max_right _ _

theorem two_le_enforcedMinSamples (settings : SamplingSettings Float) :
    2 ≤ settings.enforcedMinSamples :=
  Nat.le_max_right _ _

theorem suffices_enforcedMinSamples (settings : SamplingSettings Float) (time : Nat) :
    settings.Suffices time settings.enforcedMinSamples :=
  ⟨Nat.le_trans (by decide) settings.two_le_enforcedMinSamples, .inl (Nat.le_refl _)⟩

/-- Some number of full batches is the least that suffices. -/
theorem exists_isLeast_suffices (settings : SamplingSettings Float) (time : Nat) :
    ∃ count, IsLeast {count | settings.Suffices time count} count :=
  ⟨_, Nat.sInf_mem ⟨_, settings.suffices_enforcedMinSamples time⟩, fun _ hcount ↦
    Nat.sInf_le hcount⟩

theorem window_le_filling_mul (settings : SamplingSettings Float) (hpos : 0 < time) :
    settings.window ≤ settings.filling time * time :=
  calc
    settings.window ≤ time * (settings.window ⌈/⌉ time) := le_smul_ceilDiv hpos
    _ = settings.window ⌈/⌉ time * time := Nat.mul_comm _ _
    _ ≤ settings.filling time * time := by
      rw [filling, if_neg (Nat.ne_of_gt hpos)]
      exact Nat.mul_le_mul_right _ (Nat.le_max_left _ _)

theorem time_lt (hbits : settings.filling time * time < 2 ^ 53) : time < 2 ^ 53 :=
  lt_of_mul_lt_of_one_le_right hbits (settings.one_le_filling time)

theorem filling_lt (hbits : settings.filling time * time < 2 ^ 53) :
    settings.filling time < 2 ^ 53 := by
  rcases Nat.eq_zero_or_pos time with rfl | hpos
  · rw [filling, if_pos rfl]
    decide
  · exact lt_of_mul_lt_of_one_le_left hbits hpos

/-- The period of a body sizes a batch that fills the window. -/
theorem batchFor_ofNat (hbits : settings.filling time * time < 2 ^ 53) :
    Sampler.batchFor settings (Float.ofNat time) = settings.filling time := by
  have htime := time_lt hbits
  have hzero : Scalar.le (Float.ofNat time) 0.0 = decide (time = 0) :=
    decide_eq_decide.mpr (Binary64.ofNat_le_zero_iff htime)
  rw [Sampler.batchFor, filling, hzero]
  rcases Nat.eq_zero_or_pos time with rfl | hpos
  · rfl
  · have hwindow := Nat.lt_of_le_of_lt (settings.window_le_filling_mul hpos) hbits
    have hceil : Scalar.ceil ((Scalar.ofNat settings.window : Float) / Float.ofNat time) =
        settings.window ⌈/⌉ time := Binary64.ceil_ofNat_div hwindow hpos htime
    rw [if_neg (by simpa using Nat.ne_of_gt hpos), if_neg (Nat.ne_of_gt hpos), hceil]

theorem period_fullBatch (hbits : settings.filling time * time < 2 ^ 53) :
    (settings.fullBatch time).period = Float.ofNat time :=
  Binary64.period_eq (settings.one_le_filling time) hbits (filling_lt hbits)

end SamplingSettings

namespace Sampler

/-- A sampler has taken nothing but full batches, the time since the first has passed in them
alone, and the next batch is full as well. -/
structure Repeats (sampler : Sampler Float) (settings : SamplingSettings Float)
    (time count now : Nat) : Prop where
  settings_eq : sampler.settings = settings
  samples_eq : sampler.samples = List.replicate count (settings.fullBatch time)
  statistics_eq : sampler.statistics =
    .ofSamples (List.replicate count (settings.fullBatch time)) settings.confidence
  batch_eq : sampler.batch = settings.filling time
  now_eq : now = sampler.startedAt.getD now + count * (settings.filling time * time)

variable {now : Nat}

namespace Repeats

theorem elapsed_eq (h : sampler.Repeats settings time count now) :
    sampler.elapsed now = count * (settings.filling time * time) := by
  have hnow := h.now_eq
  rw [elapsed]
  cases hstarted : sampler.startedAt with
  | none =>
    rw [hstarted, Option.getD_none] at hnow
    exact (Nat.add_eq_left.mp hnow.symm).symm
  | some first =>
    rw [hstarted, Option.getD_some] at hnow
    change now - first = _
    omega

theorem showsOnly (h : sampler.Repeats settings time count now) (hpos : 1 ≤ count)
    (hcount : count < 2 ^ 64) (hbits : count * (settings.filling time * time) < 2 ^ 53) :
    sampler.statistics.ShowsOnly count time := by
  have hone : settings.filling time * time < 2 ^ 53 := lt_of_mul_lt_of_one_le_right hbits hpos
  have hsum : count * time ≤ count * (settings.filling time * time) :=
    Nat.mul_le_mul_left _ (Nat.le_mul_of_pos_left _ (settings.one_le_filling time))
  rw [h.statistics_eq]
  exact Binary64.showsOnly_ofSamples (settings.one_le_filling time)
    (SamplingSettings.filling_lt hone) hone (Nat.lt_of_le_of_lt hsum hbits) hpos hcount

/-- Whether and how sampling is over depends on the number of batches alone. -/
theorem convergence_eq (h : sampler.Repeats settings time count now)
    (htarget : 0.0 ≤ settings.target) (hpos : 1 ≤ count) (hcount : count < 2 ^ 64)
    (hbits : count * (settings.filling time * time) < 2 ^ 53) :
    sampler.convergence now =
      if settings.enforcedMinSamples ≤ count then some .converged
      else if settings.budget ≤ count * (settings.filling time * time) then some .budgetExhausted
      else none := by
  have hlength : sampler.samples.length = count := by rw [h.samples_eq, List.length_replicate]
  rw [convergence, h.elapsed_eq, h.settings_eq, hlength]
  by_cases hmany : settings.enforcedMinSamples ≤ count
  · have htwo := settings.two_le_enforcedMinSamples
    have hmargin := (h.showsOnly hpos hcount hbits).relativeMargin_eq
    rw [if_neg (by omega)] at hmargin
    have hwithin : sampler.statistics.withinMargin settings.target = true := by
      rw [Statistics.withinMargin, hmargin]
      exact decide_eq_true htarget
    rw [if_pos ⟨hmany, hwithin⟩, if_pos hmany]
  · rw [if_neg (mt And.left hmany), if_neg hmany]

/-- One more batch is full again, and leads to one that is. -/
theorem takeSample (h : sampler.Repeats settings time count (subject.now world))
    (hsteady : subject.Steady inside time) (hworld : inside world)
    (hbits : settings.filling time * time < 2 ^ 53) :
    ∃ after' after, sampler.takeSample subject world = (.ok (), after', after) ∧
      inside after ∧ after'.Repeats settings time (count + 1) (subject.now after) := by
  obtain ⟨after, hcalls⟩ := hsteady.exists_invokeTimes hworld (settings.filling time)
  obtain ⟨hafter, hnow⟩ := hsteady.invokeTimes hworld hcalls
  have hsample : Sample.ofBatch (subject.now after - subject.now world) (settings.filling time) =
      settings.fullBatch time := by
    rw [Sample.ofBatch, hnow, Nat.add_sub_cancel_left,
      Nat.max_eq_left (settings.one_le_filling time), SamplingSettings.fullBatch]
  have htaken : sampler.takeSample subject world =
      (.ok (), (sampler.startingAt (subject.now world)).record (settings.fullBatch time),
        after) := by
    rw [Sampler.takeSample, h.batch_eq, hcalls]
    dsimp only
    rw [hsample]
  have hsamples : sampler.samples ++ [settings.fullBatch time] =
      List.replicate (count + 1) (settings.fullBatch time) := by
    rw [h.samples_eq, ← List.replicate_succ']
  refine ⟨_, after, htaken, hafter, ?_⟩
  exact {
    settings_eq := h.settings_eq
    samples_eq := hsamples
    statistics_eq := by
      rw [← hsamples, ← h.settings_eq]
      rfl
    batch_eq := by
      rw [← SamplingSettings.batchFor_ofNat hbits, ← SamplingSettings.period_fullBatch hbits,
        ← h.settings_eq]
      rfl
    now_eq := by
      have hstart := h.now_eq
      change subject.now after = sampler.startedAt.getD (subject.now world) + _
      rw [hnow, Nat.succ_mul]
      omega }

/-- From any number of full batches that does not suffice on, sampling goes on until as many have
been taken as do. -/
theorem exists_sampleUntilOver_eq {last : Nat} (more : Nat)
    (h : sampler.Repeats settings time count (subject.now world))
    (hsteady : subject.Steady inside time) (hworld : inside world)
    (htarget : 0.0 ≤ settings.target) (hlast : count + more + 1 = last)
    (hleast : IsLeast {count | settings.Suffices time count} last) (hfew : last < 2 ^ 64)
    (hbits : last * (settings.filling time * time) < 2 ^ 53) :
    ∃ (final : Sampler Float) (after : ω), sampleUntilOver subject (more + 1) sampler world =
        (some (.ok (final.finish (settings.convergenceAfter last) (subject.now after))), after) ∧
      final.Repeats settings time last (subject.now after) := by
  have hone : settings.filling time * time < 2 ^ 53 := lt_of_mul_lt_of_one_le_right hbits hleast.1.1
  induction more generalizing count sampler world with
  | zero =>
    obtain ⟨final, after, htaken, -, hfinal⟩ := h.takeSample hsteady hworld hone
    obtain rfl : count + 1 = last := hlast
    have hover := hfinal.convergence_eq htarget (Nat.succ_pos count) hfew hbits
    have hend : final.convergence (subject.now after) =
        some (settings.convergenceAfter (count + 1)) := by
      rw [hover, SamplingSettings.convergenceAfter]
      split
      next => rfl
      next hmany => rw [if_pos (hleast.1.2.resolve_left hmany)]
    refine ⟨final, after, ?_, hfinal⟩
    rw [sampleUntilOver, htaken]
    dsimp only
    rw [hend]
  | succ more ih =>
    obtain ⟨next, between, htaken, hbetween, hnext⟩ := h.takeSample hsteady hworld hone
    have hmore : ¬settings.Suffices time (count + 1) := fun hsuffices ↦ by
      have := hleast.2 hsuffices
      omega
    have hgoes : next.convergence (subject.now between) = none := by
      have hproduct : (count + 1) * (settings.filling time * time) < 2 ^ 53 :=
        Nat.lt_of_le_of_lt (Nat.mul_le_mul_right _ (by omega)) hbits
      have hone : 1 ≤ count + 1 := Nat.succ_pos count
      rw [hnext.convergence_eq htarget hone (by omega) hproduct,
        if_neg fun hmany ↦ hmore ⟨hone, .inl hmany⟩,
        if_neg fun hbudget ↦ hmore ⟨hone, .inr hbudget⟩]
    obtain ⟨final, after, hrest, hfinal⟩ := ih hnext hbetween (by omega)
    refine ⟨final, after, ?_, hfinal⟩
    rw [sampleUntilOver, htaken]
    dsimp only
    rw [hgoes]
    exact hrest

end Repeats

/-- The warm-up sizes the first batch so that it is full. -/
theorem exists_warmUp_repeats (hsteady : subject.Steady inside time) (hstart : inside start)
    (hbits : settings.filling time * time < 2 ^ 53) :
    ∃ warm after, (Sampler.start settings).warmUp subject start = (.ok (), warm, after) ∧
      inside after ∧ warm.Repeats settings time 0 (subject.now after) := by
  have hinvoke : subject.invoke start = (.ok (), (subject.invoke start).2) := by
    rw [← hsteady.answer_eq hstart]
  have hwarm : (Sampler.start settings).warmUp subject start =
      (.ok (), (Sampler.start settings).sizedBy (Float.ofNat time), (subject.invoke start).2) := by
    rw [warmUp, hinvoke]
    dsimp only
    rw [hsteady.now_eq hstart, Nat.add_sub_cancel_left]
    rfl
  refine ⟨_, _, hwarm, hsteady.stays hstart, ?_⟩
  exact {
    settings_eq := rfl
    samples_eq := rfl
    statistics_eq := rfl
    batch_eq := SamplingSettings.batchFor_ofNat hbits
    now_eq := by rw [Nat.zero_mul]; rfl }

end Sampler

/-- A measurement of `count` batches that fill the window with invocations of the same time. -/
structure Measurement.Uniform (measurement : Measurement Float)
    (settings : SamplingSettings Float) (time count : Nat) : Prop where
  samples_eq : measurement.samples =
    List.replicate count ⟨settings.filling time * time, settings.filling time⟩
  convergence_eq : measurement.convergence = settings.convergenceAfter count
  showsOnly : measurement.statistics.ShowsOnly count time
  elapsed_eq : measurement.elapsed = count * (settings.filling time * time)

/-- There is a least number of full batches that suffices, and a body of a constant time is measured
by as many batches and by nothing else: the batch size does not move, the averages are the time
itself, and the target is reached with the samples that are asked for unless the budget is spent
before. A number of samples is a count of sixty-four bits. -/
theorem steady_measurement_is_uniform (hsteady : subject.Steady inside time) (hstart : inside start)
    (htarget : 0.0 ≤ settings.target) (hmin : settings.minSamples < 2 ^ 64) :
    ∃ count, IsLeast {count | settings.Suffices time count} count ∧
      (count * (settings.filling time * time) < 2 ^ 53 →
        ∃ measurement after, measurement.Uniform settings time count ∧ ∀ limit, count ≤ limit →
          Sampler.measure settings subject limit start = (some (.ok measurement), after)) := by
  obtain ⟨count, hleast⟩ := settings.exists_isLeast_suffices time
  refine ⟨count, hleast, fun hbits ↦ ?_⟩
  have hone : settings.filling time * time < 2 ^ 53 := lt_of_mul_lt_of_one_le_right hbits hleast.1.1
  have hfew : count < 2 ^ 64 :=
    Nat.lt_of_le_of_lt (hleast.2 (settings.suffices_enforcedMinSamples time))
      (Nat.max_lt.mpr ⟨hmin, by decide⟩)
  obtain ⟨more, hmore⟩ := Nat.exists_eq_add_of_le' hleast.1.1
  obtain ⟨warm, between, hwarm, hbetween, hrepeats⟩ :=
    Sampler.exists_warmUp_repeats hsteady hstart hone
  obtain ⟨final, after, hsampled, hfinal⟩ := hrepeats.exists_sampleUntilOver_eq more hsteady
    hbetween htarget (by omega) hleast hfew hbits
  rw [← hmore] at hsampled
  refine ⟨final.finish (settings.convergenceAfter count) (subject.now after), after, ?_,
    fun limit hlimit ↦ Sampler.measure_of_le hlimit ?_⟩
  · exact {
      samples_eq := hfinal.samples_eq
      convergence_eq := rfl
      showsOnly := hfinal.showsOnly hleast.1.1 hfew hbits
      elapsed_eq := hfinal.elapsed_eq }
  · rw [Sampler.measure, hwarm]
    exact hsampled

/-- Five invocations of forty nanoseconds fill a window of two hundred, and the third batch spends a
budget of five hundred before there are the four that are asked for. -/
theorem steady_measurement_is_uniform_budget :
    let settings : SamplingSettings Float := ⟨200, 4, 1.0, 500, .ninetyFive⟩
    IsLeast {count | settings.Suffices 40 count} 3 ∧
      ∃ measurement after,
        (measurement.samples = [⟨200, 5⟩, ⟨200, 5⟩, ⟨200, 5⟩] ∧
          measurement.convergence = .budgetExhausted ∧
          measurement.statistics.ShowsOnly 3 40 ∧ measurement.elapsed = 600) ∧
        ∀ limit, 3 ≤ limit →
          Sampler.measure settings (Script.steady 40).subject limit ⟨0, 7⟩ =
            (some (.ok measurement), after) := by
  intro settings
  have hsteady : (Script.steady 40).subject.Steady (fun _ ↦ True) 40 :=
    ⟨fun _ ↦ rfl, fun _ ↦ trivial, fun _ ↦ rfl⟩
  have hfilling : settings.filling 40 = 5 := by decide
  have hleast : IsLeast {count | settings.Suffices 40 count} 3 := by
    refine ⟨⟨by decide, .inr ?_⟩, ?_⟩
    · rw [hfilling]
      decide
    · rintro count ⟨-, hmany | hbudget⟩
      · change 4 ≤ count at hmany
        omega
      · rw [hfilling] at hbudget
        change 500 ≤ count * (5 * 40) at hbudget
        omega
  have huniform : ∃ count, IsLeast {count | settings.Suffices 40 count} count ∧
      (count * (settings.filling 40 * 40) < 2 ^ 53 →
        ∃ measurement after, measurement.Uniform settings 40 count ∧ ∀ limit, count ≤ limit →
          Sampler.measure settings (Script.steady 40).subject limit ⟨0, 7⟩ =
            (some (.ok measurement), after)) :=
    steady_measurement_is_uniform hsteady trivial (by decide +kernel) (by decide)
  obtain ⟨count, hcount, hmeasured⟩ := huniform
  obtain rfl : count = 3 := hcount.unique hleast
  obtain ⟨measurement, after, huniform, hmeasure⟩ := hmeasured (by rw [hfilling]; decide)
  refine ⟨hleast, measurement, after, ⟨?_, ?_, huniform.showsOnly, ?_⟩, hmeasure⟩
  · rw [huniform.samples_eq, hfilling]
    rfl
  · rw [huniform.convergence_eq]
    decide
  · rw [huniform.elapsed_eq, hfilling]

end PushBench
