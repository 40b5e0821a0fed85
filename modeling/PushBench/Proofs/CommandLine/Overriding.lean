import PushBench.CommandLine.Settings

/-!
# Flags over a configuration

What a configuration has in a place that a flag overrides does not matter to the settings of a run,
with one exception: its sampling section has to be valid before any flag is looked at. Two
configurations that differ in overridden places only come to the same settings if both sections are
valid, and a section that is not is refused whatever the flags are.
-/

namespace PushBench

variable {flags : Flags} {config other : Config} {settings settings' : SamplingSettings Float}

/-! ## The sampling section -/

theorem SamplingSettings.eq_of_validated (h : settings.validated = .ok settings') :
    settings' = settings := by
  unfold validated at h
  split at h <;> cases h
  rfl

/-- The section that sampling settings come from, field by field. -/
structure SamplerSection.Gives (sampler : SamplerSection) (settings : SamplingSettings Float) :
    Prop where
  window : durationOf sampler.window = .ok settings.window
  minSamples_eq : settings.minSamples = sampler.minSamples
  target_eq : settings.target = sampler.target
  budget : durationOf sampler.maxTime = .ok settings.budget
  confidence : confidenceOf sampler.confidence = .ok settings.confidence

theorem Config.gives_of_sampling (h : config.sampling = .ok settings) :
    config.sampler.Gives settings := by
  unfold Config.sampling at h
  cases hwindow : durationOf config.sampler.window with
  | error error => simp [hwindow, bind, Except.bind] at h
  | ok window =>
    cases hbudget : durationOf config.sampler.maxTime with
    | error error => simp [hwindow, hbudget, bind, Except.bind] at h
    | ok budget =>
      cases hconfidence : confidenceOf config.sampler.confidence with
      | error error => simp [hwindow, hbudget, hconfidence, bind, Except.bind] at h
      | ok confidence =>
        simp only [hwindow, hbudget, hconfidence, bind, Except.bind] at h
        obtain rfl := SamplingSettings.eq_of_validated h
        exact ⟨hwindow, rfl, rfl, hbudget, hconfidence⟩

namespace Flags

/-! ## Layers -/

/-- Two configurations have the same in every place that no flag overrides. -/
structure AgreeBeside (flags : Flags) (config other : Config) : Prop where
  len : flags.len = none → config.workload.len = other.workload.len
  window : flags.window = none → config.sampler.window = other.sampler.window
  minSamples : flags.minSamples = none → config.sampler.minSamples = other.sampler.minSamples
  target : flags.target = none → config.sampler.target = other.sampler.target
  maxTime : flags.maxTime = none → config.sampler.maxTime = other.sampler.maxTime
  confidence : flags.confidence = none → config.sampler.confidence = other.sampler.confidence
  format : flags.format = none → config.output.format = other.output.format
  pinCpu : flags.pinCpu = none → config.runner.pinCpu = other.runner.pinCpu

/-- A flag takes the place of what lies below it. -/
theorem getD_congr {α : Type} {flag : Option α} {below below' : α}
    (h : flag = none → below = below') : flag.getD below = flag.getD below' := by
  cases flag with
  | none => exact h rfl
  | some value => rfl

theorem durationOr_congr {flag : Option String} {below below' : Nat}
    (h : flag = none → below = below') : durationOr flag below = durationOr flag below' := by
  cases flag with
  | none => exact congrArg Except.ok (h rfl)
  | some text => rfl

theorem confidenceOr_congr {flag : Option Float} {below below' : Confidence}
    (h : flag = none → below = below') : confidenceOr flag below = confidenceOr flag below' := by
  cases flag with
  | none => exact congrArg Except.ok (h rfl)
  | some value => rfl

/-- What a section has in a place that no flag overrides, the settings of another section that
agrees there have as well. -/
theorem AgreeBeside.overSampling_eq (h : flags.AgreeBeside config other)
    (hsettings : config.sampler.Gives settings) (hother : other.sampler.Gives settings') :
    flags.overSampling settings = flags.overSampling settings' := by
  have hwindow : durationOr flags.window settings.window =
      durationOr flags.window settings'.window := by
    refine durationOr_congr fun hnone ↦ ?_
    have hfrom := hsettings.window
    rw [h.window hnone, hother.window] at hfrom
    exact (Except.ok.inj hfrom).symm
  have hbudget : durationOr flags.maxTime settings.budget =
      durationOr flags.maxTime settings'.budget := by
    refine durationOr_congr fun hnone ↦ ?_
    have hfrom := hsettings.budget
    rw [h.maxTime hnone, hother.budget] at hfrom
    exact (Except.ok.inj hfrom).symm
  have hconfidence : confidenceOr flags.confidence settings.confidence =
      confidenceOr flags.confidence settings'.confidence := by
    refine confidenceOr_congr fun hnone ↦ ?_
    have hfrom := hsettings.confidence
    rw [h.confidence hnone, hother.confidence] at hfrom
    exact (Except.ok.inj hfrom).symm
  have hminSamples : flags.minSamples.getD settings.minSamples =
      flags.minSamples.getD settings'.minSamples :=
    getD_congr fun hnone ↦ by rw [hsettings.minSamples_eq, h.minSamples hnone, hother.minSamples_eq]
  have htarget : flags.target.getD settings.target = flags.target.getD settings'.target :=
    getD_congr fun hnone ↦ by rw [hsettings.target_eq, h.target hnone, hother.target_eq]
  simp only [overSampling, hwindow, hbudget, hconfidence, hminSamples, htarget]

/-- Sections that are both valid, or have the same fault, come to the same sampling settings. -/
theorem AgreeBeside.samplingWith_eq (h : flags.AgreeBeside config other)
    (hfaults : ∀ error, config.sampling = .error error ↔ other.sampling = .error error) :
    flags.samplingWith config = flags.samplingWith other := by
  unfold samplingWith
  cases hconfig : config.sampling with
  | error error =>
    rw [(hfaults error).mp hconfig]
  | ok settings =>
    cases hother : other.sampling with
    | error error => cases hconfig.symm.trans ((hfaults error).mpr hother)
    | ok settings' =>
      exact h.overSampling_eq (Config.gives_of_sampling hconfig) (Config.gives_of_sampling hother)

theorem samplingWith_eq_error {error : SamplingError} (h : config.sampling = .error error) :
    flags.samplingWith config = .error error := by
  rw [samplingWith, h]
  rfl

end Flags

/-! ## Settings of a run -/

/-- Configurations that agree in every place that no flag overrides come to the same settings, or to
the same refusal, if the sampling sections of both are valid or have the same fault; so in any case
if the sections are the same, whatever stands in the other places that are overridden. A fault of
the section is the refusal, even if it lies in a place that is overridden. -/
theorem overridden_values_do_not_matter {flags : Flags} {config other : Config}
    (h : flags.AgreeBeside config other) :
    ((∀ error, config.sampling = .error error ↔ other.sampling = .error error) →
        flags.settingsWith config = flags.settingsWith other) ∧
      (config.sampler = other.sampler → flags.settingsWith config = flags.settingsWith other) ∧
      ∀ error, config.sampling = .error error →
        flags.settingsWith config = .error (.sampling error) := by
  have hlen : flags.len.getD config.workload.len = flags.len.getD other.workload.len :=
    Flags.getD_congr h.len
  have hformat : flags.format.getD config.output.format = flags.format.getD other.output.format :=
    Flags.getD_congr h.format
  have hpinCpu : flags.pinCpu.or config.runner.pinCpu = flags.pinCpu.or other.runner.pinCpu := by
    cases hflag : flags.pinCpu with
    | none => exact congrArg _ (h.pinCpu hflag)
    | some cpu => rfl
  have hequal (hfaults : ∀ error, config.sampling = .error error ↔ other.sampling = .error error) :
      flags.settingsWith config = flags.settingsWith other := by
    simp only [Flags.settingsWith, h.samplingWith_eq hfaults, hlen, hformat, hpinCpu]
  refine ⟨hequal, fun hsampler ↦ hequal fun error ↦ ?_, fun error hfault ↦ ?_⟩
  · unfold Config.sampling
    rw [hsampler]
  · rw [Flags.settingsWith, Flags.samplingWith_eq_error hfault]
    rfl

/-- A window of its own and a format that no report has are both overridden. -/
theorem overridden_values_do_not_matter_window :
    let flags : Flags := { window := some "10ms", format := some "json" }
    let config : Config := { sampler := { window := "3 s" }, output := { format := "pdf" } }
    flags.AgreeBeside config {} ∧ config.sampling.isOk = true ∧
      flags.settingsWith config = flags.settingsWith {} := by
  intro flags config
  have hagree : flags.AgreeBeside config {} :=
    ⟨fun _ ↦ rfl, nofun, fun _ ↦ rfl, fun _ ↦ rfl, fun _ ↦ rfl, fun _ ↦ rfl, nofun, fun _ ↦ rfl⟩
  have hvalid : config.sampling.isOk = true := by decide +kernel
  have hvalid' : ({} : Config).sampling.isOk = true := by decide +kernel
  refine ⟨hagree, hvalid, (overridden_values_do_not_matter hagree).1 fun error ↦ ?_⟩
  constructor
  · intro hfault
    rw [hfault] at hvalid
    cases hvalid
  · intro hfault
    rw [hfault] at hvalid'
    cases hvalid'

/-- A window that is no duration is refused although it is overridden. -/
theorem not_overridden_values_do_not_matter :
    ¬ ∀ (flags : Flags) (config other : Config), flags.AgreeBeside config other →
      flags.settingsWith config = flags.settingsWith other := by
  intro h
  let flags : Flags := { window := some "10ms" }
  let config : Config := { sampler := { window := "fast" } }
  have hagree : flags.AgreeBeside config {} :=
    ⟨fun _ ↦ rfl, nofun, fun _ ↦ rfl, fun _ ↦ rfl, fun _ ↦ rfl, fun _ ↦ rfl, fun _ ↦ rfl,
      fun _ ↦ rfl⟩
  have hrefused : (flags.settingsWith config).isOk = false := by decide +kernel
  have haccepted : (flags.settingsWith {}).isOk = true := by decide +kernel
  rw [h flags config {} hagree, haccepted] at hrefused
  cases hrefused

end PushBench
