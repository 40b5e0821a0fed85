import PushBench.Suite.Json
import PushBench.Json.Writer
import PushBench.Proofs.Json.Field

/-!
# Suite results that are read back

Whatever a suite comes to, its JSON text is read as the same result: counters of sixty-four bits,
finite doubles and unbounded margins, and names, messages and reasons of any characters.
-/

namespace PushBench

/-! ## What can be written -/

/-- The counters of a sample have sixty-four bits. -/
structure Sample.IsWritable (sample : Sample) : Prop where
  elapsed : sample.elapsed < twoPow 64
  iterations : sample.iterations < twoPow 64

namespace Statistics

/-- The doubles that have to be finite. -/
def plainDoubles (statistics : Statistics Float) : List Float :=
  [statistics.mean, statistics.median, statistics.least, statistics.greatest,
    statistics.standardDeviation, statistics.standardError, statistics.rate]

/-- The doubles that may be unbounded. -/
def margins (statistics : Statistics Float) : List Float :=
  [statistics.margin, statistics.relativeMargin]

/-- Counters have sixty-four bits, and all doubles are finite but for unbounded margins. -/
structure IsWritable (statistics : Statistics Float) : Prop where
  sampleCount : statistics.sampleCount < twoPow 64
  iterations : statistics.iterations < twoPow 64
  isFinite : ∀ x ∈ statistics.plainDoubles, x.isFinite = true
  isBounded : ∀ x ∈ statistics.margins, x.isFinite = true ∨ x = Binary64.infinity

end Statistics

/-- The numbers of a measurement can be written. -/
structure Measurement.IsWritable (measurement : Measurement Float) : Prop where
  statistics : measurement.statistics.IsWritable
  samples : ∀ sample ∈ measurement.samples, sample.IsWritable
  elapsed : measurement.elapsed < twoPow 64

/-- The measurements of the completed cases. -/
def SuiteResult.measurements (result : SuiteResult Float) : List (Measurement Float) :=
  result.outcomes.filterMap CaseOutcome.measurement?

/-- A double is written as a number that is read as the same double. -/
def Json.IsExact (x : Float) : Prop := Json.asFloat (.ofFloat x) = some x

instance (x : Float) : Decidable (Json.IsExact x) :=
  inferInstanceAs (Decidable (Json.asFloat (.ofFloat x) = some x))

theorem Confidence.isExact_fraction (level : Confidence) : Json.IsExact level.fraction := by
  cases level <;> decide +kernel

/-- The finite doubles of a measurement are read as they were written. -/
def Measurement.IsExact (measurement : Measurement Float) : Prop :=
  ∀ x ∈ measurement.statistics.plainDoubles ++ measurement.statistics.margins,
    x.isFinite = true → Json.IsExact x

/-! ## Samples and choices -/

theorem Sample.ofJson_toJson {sample : Sample} (h : sample.IsWritable) :
    ofJson sample.toJson = some sample := by
  refine Json.bind_eq_some_of (Json.fields_object rfl (by decide)) ?_
  refine Json.Fields.bind_required rfl (Json.countBelow_ofNat h.elapsed) ?_
  refine Json.Fields.bind_required rfl (Json.countBelow_ofNat h.iterations) ?_
  rfl

theorem Confidence.ofJson_toJson (level : Confidence) : ofJson level.toJson = some level := by
  cases level <;> decide +kernel

theorem Convergence.asChoice_toJson (isUnit : Json → Bool) (convergence : Convergence) :
    convergence.toJson.asChoice isUnit ofTag? = some convergence := by
  cases convergence <;> rfl

theorem FailureKind.asChoice_toJson (isUnit : Json → Bool) (kind : FailureKind) :
    kind.toJson.asChoice isUnit ofTag? = some kind := by
  cases kind <;> rfl

/-! ## Measurements -/

/-- A margin that is finite is read as it was written, and an unbounded one is read as unbounded. -/
theorem Statistics.marginOfJson_ofFloat {margin : Float}
    (hmargin : margin.isFinite = true ∨ margin = Binary64.infinity)
    (hexact : margin.isFinite = true → Json.IsExact margin) :
    marginOfJson (.ofFloat margin) = some margin := by
  rcases hmargin with hfinite | rfl
  · rw [marginOfJson, Json.orNull_eq_some rfl (hexact hfinite)]
    rfl
  · decide +kernel

theorem Statistics.ofJson_toJson {statistics : Statistics Float} (h : statistics.IsWritable)
    (hexact : ∀ x ∈ statistics.plainDoubles ++ statistics.margins,
      x.isFinite = true → Json.IsExact x) : ofJson statistics.toJson = some statistics := by
  have hplain : ∀ x ∈ statistics.plainDoubles, Json.asFloat (.ofFloat x) = some x :=
    fun x hx ↦ hexact x (List.mem_append_left _ hx) (h.isFinite x hx)
  have hmargin : ∀ x ∈ statistics.margins, marginOfJson (.ofFloat x) = some x :=
    fun x hx ↦ marginOfJson_ofFloat (h.isBounded x hx) (hexact x (List.mem_append_right _ hx))
  simp only [plainDoubles, List.forall_mem_cons] at hplain
  simp only [margins, List.forall_mem_cons] at hmargin
  obtain ⟨hmean, hmedian, hleast, hgreatest, hdeviation, herror, hrate, -⟩ := hplain
  obtain ⟨hmargin, hrelative, -⟩ := hmargin
  refine Json.bind_eq_some_of (Json.fields_object rfl (by decide)) ?_
  refine Json.Fields.bind_required rfl (Json.countBelow_ofNat h.sampleCount) ?_
  refine Json.Fields.bind_required rfl (Json.countBelow_ofNat h.iterations) ?_
  refine Json.Fields.bind_required rfl hmean ?_
  refine Json.Fields.bind_required rfl hmedian ?_
  refine Json.Fields.bind_required rfl hleast ?_
  refine Json.Fields.bind_required rfl hgreatest ?_
  refine Json.Fields.bind_required rfl hdeviation ?_
  refine Json.Fields.bind_required rfl herror ?_
  refine Json.Fields.bind_required rfl hmargin ?_
  refine Json.Fields.bind_required rfl hrelative ?_
  refine Json.Fields.bind_required rfl hrate ?_
  refine Json.Fields.bind_required rfl statistics.confidence.ofJson_toJson ?_
  rfl

theorem Measurement.ofJsonWith_toMembers {ending : Json → Option Convergence}
    (hending : ∀ convergence : Convergence, ending convergence.toJson = some convergence)
    {measurement : Measurement Float} (h : measurement.IsWritable) (hexact : measurement.IsExact) :
    ofJsonWith ending (.object measurement.toMembers) = some measurement := by
  have hsamples := Json.asList_map fun sample hsample ↦
    Sample.ofJson_toJson (h.samples sample hsample)
  refine Json.bind_eq_some_of (Json.fields_object rfl (by decide)) ?_
  refine Json.Fields.bind_required rfl (Statistics.ofJson_toJson h.statistics hexact) ?_
  refine Json.Fields.bind_required rfl hsamples ?_
  refine Json.Fields.bind_required rfl (hending measurement.convergence) ?_
  refine Json.Fields.bind_required rfl (Json.countBelow_ofNat h.elapsed) ?_
  rfl

/-! ## Soundness -/

namespace CaseOutcome

theorem isSound_ofNat {count : Nat} (hcount : count < twoPow 64) (room : Nat) :
    isSound room (.ofNat count) = true :=
  Json.isSome_asFloat_ofNat hcount

theorem isSound_ofFloat {x : Float} (hexact : x.isFinite = true → Json.IsExact x) (room : Nat) :
    isSound room (.ofFloat x) = true := by
  unfold Json.ofFloat
  split
  case isTrue hx =>
    have hread : Json.asFloat (.ofFloat x) = some x := hexact hx
    rw [Json.ofFloat, if_pos hx] at hread
    rw [isSound, hread]
    rfl
  case isFalse => rfl

theorem isSound_sample {sample : Sample} (h : sample.IsWritable) (room : Nat) :
    isSound (room + 1) sample.toJson = true := by
  simp [Sample.toJson, isSound, areSoundMembers, isSound_ofNat h.elapsed,
    isSound_ofNat h.iterations]

theorem areSound_samples {samples : List Sample} (h : ∀ sample ∈ samples, sample.IsWritable)
    (room : Nat) : areSound (room + 1) (samples.map Sample.toJson) = true := by
  induction samples with
  | nil => rfl
  | cons sample samples ih =>
    have hrest := ih fun other hother ↦ h other (List.mem_cons_of_mem sample hother)
    simp [areSound, isSound_sample (h sample List.mem_cons_self), hrest]

theorem isSound_statistics {statistics : Statistics Float} (h : statistics.IsWritable)
    (hexact : ∀ x ∈ statistics.plainDoubles ++ statistics.margins,
      x.isFinite = true → Json.IsExact x) (room : Nat) :
    isSound (room + 1) statistics.toJson = true := by
  have hsound : ∀ x ∈ statistics.plainDoubles ++ statistics.margins, ∀ room,
      isSound room (.ofFloat x) = true := fun x hx ↦ isSound_ofFloat (hexact x hx)
  have hlevel : ∀ room, isSound room statistics.confidence.toJson = true :=
    isSound_ofFloat fun _ ↦ statistics.confidence.isExact_fraction
  simp only [Statistics.plainDoubles, Statistics.margins, List.cons_append, List.nil_append,
    List.forall_mem_cons] at hsound
  simp [Statistics.toJson, isSound, areSoundMembers, isSound_ofNat h.sampleCount,
    isSound_ofNat h.iterations, hsound, hlevel]

theorem areSoundMembers_measurement {measurement : Measurement Float} (h : measurement.IsWritable)
    (hexact : measurement.IsExact) (room : Nat) :
    areSoundMembers (room + 2) measurement.toMembers = true := by
  simp [Measurement.toMembers, Convergence.toJson, areSoundMembers, isSound,
    isSound_statistics h.statistics hexact, areSound_samples h.samples, isSound_ofNat h.elapsed]

/-! ## Outcomes -/

/-- An outcome is read from its name, its tag and the members of its status. -/
theorem ofJsonAt_object {depth : Nat} {name tag : String} {payload : List (String × Json)}
    {status : CaseStatus Float} {kind : StatusTag}
    (htag : StatusTag.ofJson (.string tag) = some kind)
    (hnames : ∀ member ∈ payload, member.1 ∉ ["name", "status"])
    (hsound : areSoundMembers (depthLimit - depth - 1) payload = true)
    (hstatus : statusOfJson kind (.object payload) = some status) :
    ofJsonAt depth (.object (("name", .string name) :: ("status", .string tag) :: payload)) =
      some ⟨name, status⟩ := by
  have hfields := Json.fields_object_append
    (show [("name", Json.string name), ("status", .string tag)].map Prod.fst = ["name", "status"]
      from rfl) (by decide) hnames
  have hrest : (("name", Json.string name) :: ("status", .string tag) :: payload).filter
      (fun member ↦ !(["name", "status"].contains member.1)) = payload := by
    rw [List.filter_cons_of_neg (by simp), List.filter_cons_of_neg (by simp)]
    exact List.filter_eq_self.mpr fun member hmember ↦ by simpa using hnames member hmember
  have hmembers : areSoundMembers (depthLimit - depth - 1)
      (("name", .string name) :: ("status", .string tag) :: payload) = true := by
    simp [areSoundMembers, isSound, hsound]
  refine Json.bind_eq_some_of hfields ?_
  refine Json.Fields.bind_required rfl rfl ?_
  refine Json.Fields.bind_required rfl htag ?_
  rw [hmembers]
  refine Json.bind_eq_some_of (hrest ▸ hstatus) ?_
  rfl

theorem ofJsonAt_toJson (depth : Nat) (hdepth : depth + 3 ≤ depthLimit)
    {outcome : CaseOutcome Float}
    (h : ∀ measurement ∈ outcome.measurement?, measurement.IsWritable)
    (hexact : ∀ measurement ∈ outcome.measurement?, measurement.IsExact) :
    ofJsonAt depth outcome.toJson = some outcome := by
  obtain ⟨name, status⟩ := outcome
  cases status with
  | completed measurement =>
    refine ofJsonAt_object rfl ?_ ?_ ?_
    · simp [Measurement.toMembers]
    -- the numbers of the samples lie deepest, three levels below the outcome itself
    · obtain ⟨room, hroom⟩ : ∃ room, depthLimit - depth - 1 = room + 2 :=
        ⟨depthLimit - depth - 3, by omega⟩
      rw [hroom]
      exact areSoundMembers_measurement (h measurement rfl) (hexact measurement rfl) room
    · have hread := Measurement.ofJsonWith_toMembers (Convergence.asChoice_toJson isUnit)
        (h measurement rfl) (hexact measurement rfl)
      rw [statusOfJson, hread, Option.map_some]
  | failed kind message =>
    refine ofJsonAt_object rfl ?_ ?_ ?_
    · simp
    · simp [areSoundMembers, isSound, FailureKind.toJson]
    · refine Json.bind_eq_some_of (Json.fields_object rfl (by decide)) ?_
      refine Json.Fields.bind_required rfl (kind.asChoice_toJson isUnit) ?_
      rfl
  | skipped reason =>
    refine ofJsonAt_object rfl ?_ ?_ ?_
    · simp
    · simp [areSoundMembers, isSound]
    · refine Json.bind_eq_some_of (Json.fields_object rfl (by decide)) ?_
      rfl

end CaseOutcome

/-! ## Results -/

theorem Sample.isProper_toJson (sample : Sample) : Json.IsProper sample.toJson :=
  ⟨Json.isProper_ofNat _, Json.isProper_ofNat _, trivial⟩

theorem Statistics.isProper_toJson (statistics : Statistics Float) :
    Json.IsProper statistics.toJson := by
  simp [toJson, Json.IsProper, Json.AreProperMembers, Json.isProper_ofNat, Json.isProper_ofFloat,
    Confidence.toJson]

theorem CaseOutcome.isProper_toJson (outcome : CaseOutcome Float) :
    Json.IsProper outcome.toJson := by
  obtain ⟨name, status⟩ := outcome
  cases status with
  | completed measurement =>
    simp [toJson, statusMembers, Measurement.toMembers, Json.IsProper, Json.AreProperMembers,
      Json.isProper_ofNat, Json.areProper_map Sample.isProper_toJson, Statistics.isProper_toJson,
      Convergence.toJson]
  | failed kind message =>
    simp [toJson, statusMembers, Json.IsProper, Json.AreProperMembers, FailureKind.toJson]
  | skipped reason => simp [toJson, statusMembers, Json.IsProper, Json.AreProperMembers]

namespace SuiteResult

theorem isProper_toJson (result : SuiteResult Float) : Json.IsProper result.toJson := by
  have hfastest := Json.isProper_ofOption Json.isProper_string result.fastest
  simp [toJson, Json.IsProper, Json.AreProperMembers, hfastest,
    Json.areProper_map CaseOutcome.isProper_toJson]

theorem ofJson_toJson {result : SuiteResult Float}
    (h : ∀ measurement ∈ result.measurements, measurement.IsWritable)
    (hexact : ∀ measurement ∈ result.measurements, measurement.IsExact) :
    ofJson result.toJson = some result := by
  have houtcomes := Json.asList_map fun outcome (houtcome : outcome ∈ result.outcomes) ↦
    CaseOutcome.ofJsonAt_toJson 2 (by decide)
      (fun measurement hmeasurement ↦ h measurement (List.mem_filterMap.mpr
        ⟨outcome, houtcome, hmeasurement⟩))
      (fun measurement hmeasurement ↦ hexact measurement (List.mem_filterMap.mpr
        ⟨outcome, houtcome, hmeasurement⟩))
  refine Json.bind_eq_some_of (Json.fields_object rfl (by decide)) ?_
  refine Json.Fields.bind_required rfl houtcomes ?_
  refine Json.Fields.bind_optional rfl (Json.orNull_asString result.fastest) ?_
  rfl

end SuiteResult

/-- What a suite comes to is read back from its JSON text, be it written without white space or over
several lines: any number of outcomes of any status, any names, messages and reasons, all counters
of sixty-four bits, all finite doubles and margins that are finite or unbounded. Of the numbers of
JSON it is assumed that each finite double of the result is read as it was written. -/
theorem suite_result_read_back (result : SuiteResult Float)
    (hwritable : ∀ measurement ∈ result.measurements, measurement.IsWritable)
    (hexact : ∀ measurement ∈ result.measurements, measurement.IsExact) :
    (Json.read result.toJson.compact).bind SuiteResult.ofJson = some result ∧
      (Json.read result.toJson.pretty).bind SuiteResult.ofJson = some result := by
  have hread := SuiteResult.ofJson_toJson hwritable hexact
  constructor
  · rw [Json.read_compact result.isProper_toJson, Option.bind_some, hread]
  · rw [Json.read_pretty result.isProper_toJson, Option.bind_some, hread]

/-- A single sample leaves both margins unbounded; a case that panicked and a skipped one stand
beside it, with quotes, controls and letters of other scripts in their texts. -/
theorem suite_result_read_back_unbounded :
    let samples : List Sample := [⟨2000, 2⟩]
    let measurement : Measurement Float :=
      ⟨Statistics.ofSamples samples .ninetyFive, samples, .budgetExhausted, 2000⟩
    let result : SuiteResult Float :=
      ⟨[⟨"once", .completed measurement⟩, ⟨"broken", .failed .panicked "\"\\\n\x01é😀"⟩,
        ⟨"", .skipped "später"⟩], some "once", false⟩
    measurement.statistics.relativeMargin = Binary64.infinity ∧
      (Json.read result.toJson.compact).bind SuiteResult.ofJson = some result ∧
      (Json.read result.toJson.pretty).bind SuiteResult.ofJson = some result := by
  intro samples measurement result
  refine ⟨by decide +kernel, suite_result_read_back result ?_ ?_⟩
  · rintro _ hmeasurement
    obtain rfl : _ = measurement := List.mem_singleton.mp hmeasurement
    exact ⟨⟨by decide, by decide, by decide +kernel, by decide +kernel⟩,
      fun _ hsample ↦ List.mem_singleton.mp hsample ▸ ⟨by decide, by decide⟩, by decide⟩
  · rintro _ hmeasurement
    obtain rfl : _ = measurement := List.mem_singleton.mp hmeasurement
    unfold Measurement.IsExact
    decide +kernel

end PushBench
