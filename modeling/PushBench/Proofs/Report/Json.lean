import PushBench.Report.Json
import PushBench.Proofs.Suite.Json

/-!
# Reports that are read back

A report is read back from its JSON text with nothing invented and nothing lost. All its numbers are
finite: an unbounded margin is left out of the report, and the time spent on sampling is a sum of
milliseconds that cannot become infinite, however many cases there are.
-/

namespace PushBench

/-! ## Numbers of reports -/

namespace ReportSettings

/-- Every number of the settings is read as it is written. -/
structure IsLegible (settings : ReportSettings) : Prop where
  len : settings.len < twoPow 32
  window : settings.window < twoPow 64
  minSamples : settings.minSamples < twoPow 64
  target : Json.IsExact settings.target
  budget : settings.budget < twoPow 64
  confidence : Json.IsExact settings.confidence

theorem ofJson_toJson {settings : ReportSettings} (h : settings.IsLegible) :
    ofJson settings.toJson = some settings := by
  refine Json.bind_eq_some_of (Json.fields_object rfl (by decide)) ?_
  refine Json.Fields.bind_required rfl (Json.countBelow_ofNat h.len) ?_
  refine Json.Fields.bind_required rfl (Json.countBelow_ofNat h.window) ?_
  refine Json.Fields.bind_required rfl (Json.countBelow_ofNat h.minSamples) ?_
  refine Json.Fields.bind_required rfl h.target ?_
  refine Json.Fields.bind_required rfl (Json.countBelow_ofNat h.budget) ?_
  refine Json.Fields.bind_required rfl h.confidence ?_
  rfl

theorem isProper_toJson (settings : ReportSettings) : Json.IsProper settings.toJson := by
  simp [toJson, Json.IsProper, Json.AreProperMembers, Json.isProper_ofNat, Json.isProper_ofFloat]

end ReportSettings

namespace Metrics

/-- The doubles of a case, of which absent margins are none. -/
def doubles (metrics : Metrics) : List Float :=
  [metrics.mean, metrics.median, metrics.least, metrics.greatest, metrics.standardDeviation,
    metrics.rate] ++ metrics.margin.toList ++ metrics.relativeMargin.toList

/-- Every number of a case is read as it is written. -/
structure IsLegible (metrics : Metrics) : Prop where
  samples : metrics.samples < twoPow 64
  iterations : metrics.iterations < twoPow 64
  isExact : ∀ x ∈ metrics.doubles, Json.IsExact x
  confidence : Json.IsExact metrics.confidence
  elapsed : metrics.elapsed < twoPow 64

theorem ofJson_toJson {metrics : Metrics} (h : metrics.IsLegible) :
    ofJson metrics.toJson = some metrics := by
  have hexact := h.isExact
  simp only [doubles, List.cons_append, List.nil_append, List.forall_mem_cons,
    List.forall_mem_append, Option.mem_toList] at hexact
  obtain ⟨hmean, hmedian, hleast, hgreatest, hdeviation, hrate, hmargin, hrelative⟩ := hexact
  refine Json.bind_eq_some_of (Json.fields_object rfl (by decide)) ?_
  refine Json.Fields.bind_required rfl (Json.countBelow_ofNat h.samples) ?_
  refine Json.Fields.bind_required rfl (Json.countBelow_ofNat h.iterations) ?_
  refine Json.Fields.bind_required rfl hmean ?_
  refine Json.Fields.bind_required rfl hmedian ?_
  refine Json.Fields.bind_required rfl hleast ?_
  refine Json.Fields.bind_required rfl hgreatest ?_
  refine Json.Fields.bind_required rfl hdeviation ?_
  refine Json.Fields.bind_optional rfl (Json.orNull_ofOption rfl hmargin) ?_
  refine Json.Fields.bind_optional rfl (Json.orNull_ofOption rfl hrelative) ?_
  refine Json.Fields.bind_required rfl hrate ?_
  refine Json.Fields.bind_required rfl h.confidence ?_
  refine Json.Fields.bind_required rfl (Json.countBelow_ofNat h.elapsed) ?_
  rfl

theorem isProper_toJson (metrics : Metrics) : Json.IsProper metrics.toJson := by
  have hmargin := Json.isProper_ofOption Json.isProper_ofFloat
  simp [toJson, Json.IsProper, Json.AreProperMembers, Json.isProper_ofNat, Json.isProper_ofFloat,
    hmargin]

end Metrics

namespace ReportSummary

/-- Every number of the totals is read as it is written. -/
structure IsLegible (summary : ReportSummary) : Prop where
  total : summary.total < twoPow 64
  converged : summary.converged < twoPow 64
  lowConfidence : summary.lowConfidence < twoPow 64
  failed : summary.failed < twoPow 64
  skipped : summary.skipped < twoPow 64
  samplingTime : Json.IsExact summary.samplingTime

theorem ofJson_toJson {summary : ReportSummary} (h : summary.IsLegible) :
    ofJson summary.toJson = some summary := by
  refine Json.bind_eq_some_of (Json.fields_object rfl (by decide)) ?_
  refine Json.Fields.bind_required rfl (Json.countBelow_ofNat h.total) ?_
  refine Json.Fields.bind_required rfl (Json.countBelow_ofNat h.converged) ?_
  refine Json.Fields.bind_required rfl (Json.countBelow_ofNat h.lowConfidence) ?_
  refine Json.Fields.bind_required rfl (Json.countBelow_ofNat h.failed) ?_
  refine Json.Fields.bind_required rfl (Json.countBelow_ofNat h.skipped) ?_
  refine Json.Fields.bind_required rfl h.samplingTime ?_
  rfl

theorem isProper_toJson (summary : ReportSummary) : Json.IsProper summary.toJson := by
  simp [toJson, Json.IsProper, Json.AreProperMembers, Json.isProper_ofNat, Json.isProper_ofFloat]

end ReportSummary

/-! ## Entries and reports -/

namespace FailureNote

theorem ofJson_toJson (note : FailureNote) : ofJson note.toJson = some note := by
  refine Json.bind_eq_some_of (Json.fields_object rfl (by decide)) ?_
  refine Json.Fields.bind_required rfl rfl ?_
  refine Json.Fields.bind_required rfl rfl ?_
  rfl

theorem isProper_toJson (note : FailureNote) : Json.IsProper note.toJson :=
  ⟨trivial, trivial, trivial⟩

end FailureNote

theorem EntryStatus.ofJson_toJson (status : EntryStatus) : ofJson status.toJson = some status := by
  cases status <;> rfl

namespace ReportEntry

theorem ofJson_toJson {entry : ReportEntry} (h : ∀ metrics ∈ entry.metrics, metrics.IsLegible) :
    ofJson entry.toJson = some entry := by
  have hmetrics := Json.orNull_ofOption rfl fun metrics hmetrics ↦
    Metrics.ofJson_toJson (h metrics hmetrics)
  have hfailure := Json.orNull_ofOption rfl fun note (_ : note ∈ entry.failure) ↦
    FailureNote.ofJson_toJson note
  refine Json.bind_eq_some_of (Json.fields_object rfl (by decide)) ?_
  refine Json.Fields.bind_required rfl rfl ?_
  refine Json.Fields.bind_required rfl entry.status.ofJson_toJson ?_
  refine Json.Fields.bind_optional rfl hmetrics ?_
  refine Json.Fields.bind_optional rfl hfailure ?_
  refine Json.Fields.bind_optional rfl (Json.orNull_asString entry.skipReason) ?_
  rfl

theorem isProper_toJson (entry : ReportEntry) : Json.IsProper entry.toJson := by
  have hmetrics := Json.isProper_ofOption Metrics.isProper_toJson entry.metrics
  have hreason := Json.isProper_ofOption Json.isProper_string entry.skipReason
  have hfailure := Json.isProper_ofOption FailureNote.isProper_toJson entry.failure
  simp [toJson, EntryStatus.toJson, Json.IsProper, Json.AreProperMembers, hmetrics, hfailure,
    hreason]

end ReportEntry

namespace Report

/-- Every number of a report is read as it is written, and so is its time. -/
structure IsLegible (report : Report) : Prop where
  schema : report.header.schema < twoPow 32
  timestamp : Timestamp.read report.header.timestamp.text = some report.header.timestamp
  settings : report.header.settings.IsLegible
  entries : ∀ entry ∈ report.entries, ∀ metrics ∈ entry.metrics, metrics.IsLegible
  summary : report.summary.IsLegible

theorem ofJson_header {report : Report} (h : report.IsLegible) :
    ReportHeader.ofJson report.header.toJson = some report.header := by
  have htimestamp : Timestamp.ofJson report.header.timestamp.toJson =
      some report.header.timestamp := by
    rw [Timestamp.toJson, Timestamp.ofJson, Json.asString, Option.bind_some, String.toList_ofList,
      h.timestamp]
  refine Json.bind_eq_some_of (Json.fields_object rfl (by decide)) ?_
  refine Json.Fields.bind_required rfl (Json.countBelow_ofNat h.schema) ?_
  refine Json.Fields.bind_required rfl rfl ?_
  refine Json.Fields.bind_required rfl htimestamp ?_
  refine Json.Fields.bind_required rfl (ReportSettings.ofJson_toJson h.settings) ?_
  rfl

theorem ofJson_toJson {report : Report} (h : report.IsLegible) :
    ofJson report.toJson = some report := by
  have hentries := Json.asList_map fun entry hentry ↦
    ReportEntry.ofJson_toJson (h.entries entry hentry)
  refine Json.bind_eq_some_of (Json.fields_object rfl (by decide)) ?_
  refine Json.Fields.bind_required rfl (ofJson_header h) ?_
  refine Json.Fields.bind_required rfl hentries ?_
  refine Json.Fields.bind_optional rfl (Json.orNull_asString report.fastest) ?_
  refine Json.Fields.bind_required rfl rfl ?_
  refine Json.Fields.bind_required rfl (ReportSummary.ofJson_toJson h.summary) ?_
  rfl

theorem isProper_toJson (report : Report) : Json.IsProper report.toJson := by
  have hfastest := Json.isProper_ofOption Json.isProper_string report.fastest
  simp [toJson, ReportHeader.toJson, Timestamp.toJson, Json.IsProper, Json.AreProperMembers,
    Json.isProper_ofNat, ReportSettings.isProper_toJson, ReportSummary.isProper_toJson,
    Json.areProper_map ReportEntry.isProper_toJson, hfastest]

/-- A report whose numbers are legible is read back from its text. -/
theorem parse_jsonText {report : Report} (h : report.IsLegible) :
    parse report.jsonText = some report := by
  rw [parse, jsonText, String.toList_ofList, Json.read_pretty report.isProper_toJson,
    Option.bind_some, ofJson_toJson h]

end Report

/-! ## Reports of results -/

/-- The counters of a measurement have sixty-four bits, and its doubles are finite but for
margins. -/
structure Measurement.IsReportable (measurement : Measurement Float) : Prop where
  sampleCount : measurement.statistics.sampleCount < twoPow 64
  iterations : measurement.statistics.iterations < twoPow 64
  isFinite : ∀ x ∈ measurement.statistics.plainDoubles, x.isFinite = true
  elapsed : measurement.elapsed < twoPow 64

/-- The doubles of a report but for its confidence levels. -/
def Report.doubles (report : Report) : List Float :=
  report.header.settings.target :: report.summary.samplingTime ::
    (report.entries.filterMap ReportEntry.metrics).flatMap Metrics.doubles

/-- An entry says of an outcome what became of it, and nothing else. A margin that is not finite is
left out. -/
structure ReportEntry.AccountsFor (entry : ReportEntry) (outcome : CaseOutcome Float) : Prop where
  name : entry.name = outcome.name
  metrics : entry.metrics = outcome.measurement?.map Metrics.ofMeasurement
  margin : ∀ measurement ∈ outcome.measurement?, measurement.statistics.margin.isFinite = false →
    entry.metrics.bind Metrics.margin = none
  relativeMargin : ∀ measurement ∈ outcome.measurement?,
    measurement.statistics.relativeMargin.isFinite = false →
      entry.metrics.bind Metrics.relativeMargin = none
  failure : ∀ note, entry.failure = some note ↔
    ∃ kind, outcome.status = .failed kind note.message ∧ note.kind = kind.text
  skipReason : ∀ reason, entry.skipReason = some reason ↔ outcome.status = .skipped reason

namespace ReportEntry

theorem accountsFor_ofOutcome (outcome : CaseOutcome Float) :
    (ofOutcome outcome).AccountsFor outcome := by
  obtain ⟨name, status⟩ := outcome
  cases status with
  | completed measurement =>
    refine ⟨rfl, rfl, ?_, ?_, ?_, ?_⟩
    · rintro _ ⟨⟩ hmargin
      simp [ofOutcome, Metrics.ofMeasurement, finite?, hmargin]
    · rintro _ ⟨⟩ hmargin
      simp [ofOutcome, Metrics.ofMeasurement, finite?, hmargin]
    · simp [ofOutcome]
    · simp [ofOutcome]
  | failed kind message =>
    refine ⟨rfl, rfl, by rintro _ ⟨⟩, by rintro _ ⟨⟩, ?_, ?_⟩
    · rintro ⟨text, message'⟩
      constructor
      · rintro ⟨⟩
        exact ⟨kind, rfl, rfl⟩
      · rintro ⟨_, ⟨⟩, ⟨⟩⟩
        rfl
    · simp [ofOutcome]
  | skipped reason =>
    refine ⟨rfl, rfl, by rintro _ ⟨⟩, by rintro _ ⟨⟩, ?_, ?_⟩
    · simp [ofOutcome]
    · simp [ofOutcome]

end ReportEntry

namespace ReportSummary

theorem isBounded_milliseconds {metrics : Metrics} (helapsed : metrics.elapsed < twoPow 64) :
    Binary64.IsBounded 48 (milliseconds metrics) := by
  have hmillion : (1000000.0 : Float).toModel.unpack =
      .finite .positive 8589934592000000 (-33) (by decide) := by rfl
  exact (Binary64.isBounded_ofNat helapsed).div hmillion (by decide) (by decide)

/-- However many cases there are, the time spent on all of them is a finite number of milliseconds:
a summand is so small that it vanishes long before the sum becomes infinite. -/
theorem isFinite_samplingTime {entries : List ReportEntry}
    (helapsed : ∀ entry ∈ entries, ∀ metrics ∈ entry.metrics, metrics.elapsed < twoPow 64) :
    (ofEntries entries).samplingTime.isFinite = true := by
  have hsum : Binary64.IsBounded 102 (ofEntries entries).samplingTime := by
    apply Binary64.isBounded_sum
    · intro x hx
      obtain ⟨metrics, hmetrics, rfl⟩ := List.mem_map.mp hx
      obtain ⟨entry, hentry, hsome⟩ := List.mem_filterMap.mp hmetrics
      exact isBounded_milliseconds (helapsed entry hentry metrics hsome)
    · decide
    · decide
  exact hsum.isFinite

theorem count_lt {entries : List ReportEntry} (hentries : entries.length < twoPow 64)
    (status : EntryStatus) : count entries status < twoPow 64 :=
  Nat.lt_of_le_of_lt List.countP_le_length hentries

end ReportSummary

theorem SamplingSettings.isFinite_target {settings : SamplingSettings Float}
    (hsettings : settings.validate = .ok ()) : settings.target.isFinite = true := by
  unfold validate at hsettings
  split at hsettings
  · cases hsettings
  · split at hsettings
    · cases hsettings
    · split at hsettings
      · cases hsettings
      · simp_all

theorem finite?_eq_some_iff {x y : Float} : finite? x = some y ↔ x.isFinite = true ∧ x = y := by
  unfold finite?
  split <;> simp_all

/-- What is reported of a measurement is finite, as margins that are not are left out. -/
theorem Metrics.isFinite_of_mem_doubles {measurement : Measurement Float}
    (h : measurement.IsReportable) {x : Float} (hx : x ∈ (ofMeasurement measurement).doubles) :
    x.isFinite = true := by
  have hplain := h.isFinite
  simp only [Statistics.plainDoubles, List.forall_mem_cons] at hplain
  obtain ⟨hmean, hmedian, hleast, hgreatest, hdeviation, -, hrate, -⟩ := hplain
  simp only [doubles, ofMeasurement, List.mem_append, List.mem_cons, List.not_mem_nil, or_false,
    Option.mem_toList, finite?_eq_some_iff] at hx
  rcases hx with ((rfl | rfl | rfl | rfl | rfl | rfl) | ⟨hmargin, rfl⟩) | ⟨hrelative, rfl⟩ <;>
    assumption

theorem Metrics.isLegible_ofMeasurement {measurement : Measurement Float}
    (h : measurement.IsReportable)
    (hexact : ∀ x ∈ (ofMeasurement measurement).doubles, x.isFinite = true → Json.IsExact x) :
    (ofMeasurement measurement).IsLegible where
  samples := h.sampleCount
  iterations := h.iterations
  isExact x hx := hexact x hx (isFinite_of_mem_doubles h hx)
  confidence := measurement.statistics.confidence.isExact_fraction
  elapsed := h.elapsed

namespace Report

variable {result : SuiteResult Float} {settings : ReportSettings} {timestamp : Timestamp}

/-- The numbers in the entries of a report are those of the completed cases. -/
theorem exists_measurement_of_mem {entry : ReportEntry} {metrics : Metrics}
    (hentry : entry ∈ (ofResult result settings timestamp).entries)
    (hmetrics : metrics ∈ entry.metrics) :
    ∃ measurement ∈ result.measurements, metrics = .ofMeasurement measurement := by
  obtain ⟨outcome, houtcome, rfl⟩ := List.mem_map.mp hentry
  rw [(ReportEntry.accountsFor_ofOutcome outcome).metrics] at hmetrics
  obtain ⟨measurement, hmeasurement, rfl⟩ := Option.map_eq_some_iff.mp hmetrics
  exact ⟨measurement, List.mem_filterMap.mpr ⟨outcome, houtcome, hmeasurement⟩, rfl⟩

theorem isLegible_ofResult (hsettings : settings.IsLegible)
    (hcases : result.outcomes.length < twoPow 64)
    (hreportable : ∀ measurement ∈ result.measurements, measurement.IsReportable)
    (htimestamp : Timestamp.read timestamp.text = some timestamp)
    (hexact : ∀ x ∈ (ofResult result settings timestamp).doubles,
      x.isFinite = true → Json.IsExact x) :
    (ofResult result settings timestamp).IsLegible := by
  have hlength : (ofResult result settings timestamp).entries.length < twoPow 64 := by
    simpa [ofResult] using hcases
  have hentries : ∀ entry ∈ (ofResult result settings timestamp).entries,
      ∀ metrics ∈ entry.metrics, metrics.IsLegible := by
    intro entry hentry metrics hmetrics
    obtain ⟨measurement, hmeasurement, rfl⟩ := exists_measurement_of_mem hentry hmetrics
    refine Metrics.isLegible_ofMeasurement (hreportable measurement hmeasurement) fun x hx ↦ ?_
    have hmem := List.mem_flatMap.mpr
      ⟨_, List.mem_filterMap.mpr ⟨entry, hentry, hmetrics⟩, hx⟩
    exact hexact x (List.mem_cons_of_mem _ (List.mem_cons_of_mem _ hmem))
  have htime := ReportSummary.isFinite_samplingTime fun entry hentry metrics hmetrics ↦
    (hentries entry hentry metrics hmetrics).elapsed
  have hcount := ReportSummary.count_lt hlength
  have hschema : reportSchema < twoPow 32 := by decide
  exact
    { schema := hschema
      timestamp := htimestamp
      settings := hsettings
      entries := hentries
      summary := ⟨hlength, hcount _, hcount _, hcount _, hcount _,
        hexact _ (List.mem_cons_of_mem _ List.mem_cons_self) htime⟩ }

end Report

/-- What a suite comes to is read back from the report on it, which accounts for every outcome: for
all settings that are accepted, any number of cases, and any names, messages and reasons. Of the
numbers of JSON it is assumed that each finite double of the report is read as it was written, and
of the time that its text is read as the same instant. -/
theorem report_read_back (result : SuiteResult Float) (len : Nat)
    (settings : SamplingSettings Float) (timestamp : Timestamp)
    (hsettings : settings.validate = .ok ()) (hlen : len < twoPow 32)
    (hwindow : settings.window < twoPow 64) (hsamples : settings.minSamples < twoPow 64)
    (hbudget : settings.budget < twoPow 64) (hcases : result.outcomes.length < twoPow 64)
    (hreportable : ∀ measurement ∈ result.measurements, measurement.IsReportable)
    (htimestamp : Timestamp.read timestamp.text = some timestamp)
    (hexact : ∀ x ∈ (Report.ofResult result (.ofSampling len settings) timestamp).doubles,
      x.isFinite = true → Json.IsExact x) :
    let report := Report.ofResult result (.ofSampling len settings) timestamp
    Report.parse report.jsonText = some report ∧
      List.Forall₂ ReportEntry.AccountsFor report.entries result.outcomes := by
  intro report
  have htarget : Json.IsExact settings.target :=
    hexact _ List.mem_cons_self (SamplingSettings.isFinite_target hsettings)
  have hlegible : (ReportSettings.ofSampling len settings).IsLegible :=
    ⟨hlen, hwindow, hsamples, htarget, hbudget, settings.confidence.isExact_fraction⟩
  refine ⟨Report.parse_jsonText (Report.isLegible_ofResult hlegible hcases hreportable htimestamp
    hexact), ?_⟩
  exact List.forall₂_map_left_iff.mpr
    (List.forall₂_same.mpr fun outcome _ ↦ ReportEntry.accountsFor_ofOutcome outcome)

/-- A case of a single sample is reported without margins beside one that panicked and one that was
skipped. -/
theorem report_read_back_unbounded :
    let samples : List Sample := [⟨2000, 2⟩]
    let measurement : Measurement Float :=
      ⟨Statistics.ofSamples samples .ninetyFive, samples, .budgetExhausted, 2000⟩
    let result : SuiteResult Float :=
      ⟨[⟨"once", .completed measurement⟩, ⟨"broken", .failed .panicked "\"\\\n\x01é😀"⟩,
        ⟨"", .skipped "später"⟩], some "once", false⟩
    let report := Report.ofResult result (.ofSampling 1000 .standard) ⟨20000, 3723, 5000000⟩
    Report.parse report.jsonText = some report ∧
      List.Forall₂ ReportEntry.AccountsFor report.entries result.outcomes := by
  intro samples measurement result report
  refine report_read_back result 1000 .standard ⟨20000, 3723, 5000000⟩ rfl
    (by decide) (by decide) (by decide) (by decide) (by decide) ?_ (by decide +kernel) ?_
  · rintro _ hmeasurement
    obtain rfl : _ = measurement := List.mem_singleton.mp hmeasurement
    exact ⟨by decide, by decide, by decide +kernel, by decide⟩
  · decide +kernel

end PushBench
