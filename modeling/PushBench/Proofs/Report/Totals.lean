import PushBench.Proofs.Report.Json
import PushBench.Proofs.Suite.Measured

/-!
# What a report adds up

A report tells the outcomes of a suite case by case, counts them by what became of them, and adds up
the time spent on sampling. All of this agrees with the outcomes, whatever they are.
-/

namespace PushBench

open ReportSummary

/-! ## Entries -/

/-- Whether the case was skipped. -/
def CaseOutcome.isSkipped {α : Type} (outcome : CaseOutcome α) : Bool :=
  match outcome.status with
  | .skipped _ => true
  | _ => false

/-- An entry shows what became of one case: exactly one of its numbers, its failure and the reason
for which it was skipped. Margins are among the numbers if they are finite. -/
structure ReportEntry.Shows (entry : ReportEntry) (outcome : CaseOutcome Float) : Prop where
  name : entry.name = outcome.name
  metrics_iff : entry.metrics.isSome ↔ outcome.measurement?.isSome
  failure_iff : entry.failure.isSome ↔ outcome.isFailed
  skipReason_iff : entry.skipReason.isSome ↔ outcome.isSkipped
  exactly_one : [entry.metrics.isSome, entry.failure.isSome, entry.skipReason.isSome].count true = 1
  lowConfidence_iff : entry.status = .lowConfidence ↔
    ∃ measurement, outcome.status = .completed measurement ∧
      measurement.convergence = .budgetExhausted
  converged_iff : entry.status = .converged ↔
    ∃ measurement, outcome.status = .completed measurement ∧ measurement.convergence = .converged
  failed_iff : entry.status = .failed ↔ outcome.isFailed
  skipped_iff : entry.status = .skipped ↔ outcome.isSkipped
  margin_iff {measurement : Measurement Float} : outcome.status = .completed measurement →
    ∀ x, entry.metrics.bind Metrics.margin = some x ↔
      x.isFinite = true ∧ measurement.statistics.margin = x
  relativeMargin_iff {measurement : Measurement Float} : outcome.status = .completed measurement →
    ∀ x, entry.metrics.bind Metrics.relativeMargin = some x ↔
      x.isFinite = true ∧ measurement.statistics.relativeMargin = x

theorem ReportEntry.shows_ofOutcome (outcome : CaseOutcome Float) :
    (ofOutcome outcome).Shows outcome := by
  obtain ⟨name, status⟩ := outcome
  cases status with
  | completed measurement =>
    have hmargin {x y : Float} : finite? x = some y ↔ y.isFinite = true ∧ x = y := by
      rw [finite?_eq_some_iff]
      exact and_congr_left fun heq ↦ by rw [heq]
    constructor
    case margin_iff => rintro _ ⟨⟩ x; exact hmargin
    case relativeMargin_iff => rintro _ ⟨⟩ x; exact hmargin
    all_goals
      simp [ofOutcome, CaseOutcome.measurement?, CaseOutcome.isFailed, CaseOutcome.isSkipped]
    all_goals cases measurement.convergence <;> simp [EntryStatus.ofConvergence]
  | failed kind message =>
    constructor <;>
      simp [ofOutcome, CaseOutcome.measurement?, CaseOutcome.isFailed, CaseOutcome.isSkipped]
  | skipped reason =>
    constructor <;>
      simp [ofOutcome, CaseOutcome.measurement?, CaseOutcome.isFailed, CaseOutcome.isSkipped]

/-! ## Totals -/

/-- Every entry has one of the four states. -/
theorem ReportSummary.count_add (entries : List ReportEntry) :
    count entries .converged + count entries .lowConfidence + count entries .failed +
      count entries .skipped = entries.length := by
  induction entries with
  | nil => rfl
  | cons entry rest ih =>
    simp only [count, List.countP_cons, List.length_cons] at ih ⊢
    cases entry.status <;> simp <;> omega

variable {outcomes : List (CaseOutcome Float)}

/-- Entries of a state are counted as the outcomes that are in it. -/
theorem ReportSummary.count_ofOutcome {status : EntryStatus} {property : CaseOutcome Float → Bool}
    (h : ∀ outcome, (ReportEntry.ofOutcome outcome).status = status ↔ property outcome = true) :
    count (outcomes.map ReportEntry.ofOutcome) status = outcomes.countP property := by
  rw [count, List.countP_map]
  refine List.countP_congr fun outcome _ ↦ ?_
  simp [← h outcome]

/-- Entries of measured cases are counted as the measurements that ended in a way. -/
theorem ReportSummary.count_ofMeasurement {convergence : Convergence} {status : EntryStatus}
    (h : ∀ outcome, (ReportEntry.ofOutcome outcome).status = status ↔
      ∃ measurement, outcome.status = .completed measurement ∧
        measurement.convergence = convergence) :
    count (outcomes.map ReportEntry.ofOutcome) status =
      (outcomes.filterMap CaseOutcome.measurement?).countP (·.convergence == convergence) := by
  rw [List.countP_filterMap]
  refine count_ofOutcome fun outcome ↦ (h outcome).trans ?_
  obtain ⟨name, status⟩ := outcome
  cases status <;> simp [CaseOutcome.measurement?]

/-- The numbers in the entries are those of the measurements. -/
theorem ReportEntry.filterMap_metrics (outcomes : List (CaseOutcome Float)) :
    (outcomes.map ofOutcome).filterMap metrics =
      (outcomes.filterMap CaseOutcome.measurement?).map Metrics.ofMeasurement := by
  rw [List.filterMap_map, List.map_filterMap]
  exact List.filterMap_congr fun outcome _ ↦ (accountsFor_ofOutcome outcome).metrics

/-- The totals of a suite: how many of its cases there are of every kind, and the time that was
spent on sampling those that were completed. -/
structure ReportSummary.AddsUp (summary : ReportSummary) (entries : List ReportEntry)
    (result : SuiteResult Float) : Prop where
  total : summary.total = result.outcomes.length
  sum : summary.converged + summary.lowConfidence + summary.failed + summary.skipped =
    summary.total
  converged_entries : summary.converged = entries.countP (·.status == .converged)
  lowConfidence_entries : summary.lowConfidence = entries.countP (·.status == .lowConfidence)
  failed_entries : summary.failed = entries.countP (·.status == .failed)
  skipped_entries : summary.skipped = entries.countP (·.status == .skipped)
  converged : summary.converged = result.measurements.countP (·.convergence == .converged)
  lowConfidence :
    summary.lowConfidence = result.measurements.countP (·.convergence == .budgetExhausted)
  failed : summary.failed = result.failureCount
  skipped : summary.skipped = result.outcomes.countP CaseOutcome.isSkipped
  failed_pos_iff : 0 < summary.failed ↔ result.hasFailures = true
  /-- Milliseconds are added up in the order of the cases. -/
  samplingTime : summary.samplingTime =
    (result.measurements.map fun measurement ↦ Float.ofNat measurement.elapsed / 1000000.0).foldl
      (· + ·) 0.0

theorem ReportSummary.addsUp_ofEntries (result : SuiteResult Float) :
    (ofEntries (result.outcomes.map ReportEntry.ofOutcome)).AddsUp
      (result.outcomes.map ReportEntry.ofOutcome) result where
  total := List.length_map _
  sum := count_add _
  converged_entries := rfl
  lowConfidence_entries := rfl
  failed_entries := rfl
  skipped_entries := rfl
  converged := count_ofMeasurement fun outcome ↦ (ReportEntry.shows_ofOutcome outcome).converged_iff
  lowConfidence :=
    count_ofMeasurement fun outcome ↦ (ReportEntry.shows_ofOutcome outcome).lowConfidence_iff
  failed := count_ofOutcome fun outcome ↦ (ReportEntry.shows_ofOutcome outcome).failed_iff
  skipped := count_ofOutcome fun outcome ↦ (ReportEntry.shows_ofOutcome outcome).skipped_iff
  failed_pos_iff := by
    have hfailed : (ofEntries (result.outcomes.map ReportEntry.ofOutcome)).failed =
        result.failureCount :=
      count_ofOutcome fun outcome ↦ (ReportEntry.shows_ofOutcome outcome).failed_iff
    rw [hfailed, SuiteResult.failureCount, SuiteResult.hasFailures, List.countP_pos_iff,
      List.any_eq_true]
  samplingTime := by
    simp only [ofEntries, ReportEntry.filterMap_metrics, List.map_map]
    rfl

/-! ## Single samples -/

/-- A single sample has no finite margins. -/
theorem Statistics.isFinite_margins_of_single {samples : List Sample} (h : samples.length = 1)
    (level : Confidence) :
    (ofSamples samples level : Statistics Float).margin.isFinite = false ∧
      (ofSamples samples level : Statistics Float).relativeMargin.isFinite = false := by
  obtain ⟨sample, rfl⟩ := List.length_eq_one_iff.mp h
  have hmargin : (ofSamples [sample] level : Statistics Float).margin = Scalar.infinity := rfl
  have hrelative : (ofSamples [sample] level : Statistics Float).relativeMargin =
      percentOfMean (ofSamples [sample] level : Statistics Float).margin
        (ofSamples [sample] level : Statistics Float).mean := rfl
  have hinfinite : Scalar.isInfinite (Scalar.infinity : Float) = true := by decide
  have hfinite : (Scalar.infinity : Float).isFinite = false := by decide
  rw [hrelative, percentOfMean, hmargin, if_pos hinfinite]
  exact ⟨hfinite, hfinite⟩

/-- No margins are reported of a case. -/
def ReportEntry.OmitsMargins (entry : ReportEntry) : Prop :=
  entry.metrics.bind Metrics.margin = none ∧ entry.metrics.bind Metrics.relativeMargin = none

theorem ReportEntry.omitsMargins_of_single {entry : ReportEntry} {outcome : CaseOutcome Float}
    (hshows : entry.Shows outcome) {measurement : Measurement Float}
    (hstatus : outcome.status = .completed measurement) {level : Confidence}
    (hstatistics : measurement.statistics = .ofSamples measurement.samples level)
    (hsingle : measurement.samples.length = 1) : entry.OmitsMargins := by
  obtain ⟨hmargin, hrelative⟩ := Statistics.isFinite_margins_of_single hsingle level
  rw [← hstatistics] at hmargin hrelative
  constructor
  · refine Option.eq_none_iff_forall_ne_some.mpr fun x hx ↦ ?_
    obtain ⟨hfinite, rfl⟩ := (hshows.margin_iff hstatus x).mp hx
    rw [hmargin] at hfinite
    cases hfinite
  · refine Option.eq_none_iff_forall_ne_some.mpr fun x hx ↦ ?_
    obtain ⟨hfinite, rfl⟩ := (hshows.relativeMargin_iff hstatus x).mp hx
    rw [hrelative] at hfinite
    cases hfinite

/-- The report on a suite shows one entry for every outcome, in the same order, and its totals add
them up. No margins are reported of a case with a single sample, if its statistics are those of this
sample; in the result of a run they always are. -/
theorem report_agrees_with_outcomes (result : SuiteResult Float) (settings : ReportSettings)
    (timestamp : Timestamp) :
    let report := Report.ofResult result settings timestamp
    List.Forall₂ ReportEntry.Shows report.entries result.outcomes ∧
      report.summary.AddsUp report.entries result ∧
      List.Forall₂ (fun entry outcome ↦ ∀ measurement level,
        outcome.status = .completed measurement →
          measurement.statistics = .ofSamples measurement.samples level →
            measurement.samples.length = 1 → entry.OmitsMargins)
        report.entries result.outcomes ∧
      ∀ (registry : Registry) (sampling : SamplingSettings Float),
        registry.RunsTo sampling result →
          List.Forall₂ (fun entry outcome ↦ ∀ measurement,
            outcome.status = .completed measurement →
              measurement.samples.length = 1 → entry.OmitsMargins)
            report.entries result.outcomes := by
  intro report
  refine ⟨?_, ReportSummary.addsUp_ofEntries result, ?_, fun registry sampling hrun ↦ ?_⟩ <;>
    refine List.forall₂_map_left_iff.mpr (List.forall₂_same.mpr fun outcome hmem ↦ ?_)
  · exact ReportEntry.shows_ofOutcome outcome
  · intro measurement level hstatus hstatistics hsingle
    exact ReportEntry.omitsMargins_of_single (ReportEntry.shows_ofOutcome outcome) hstatus
      hstatistics hsingle
  · intro measurement hstatus hsingle
    obtain ⟨case, -, after, haccounts⟩ := hrun.accounts hmem hstatus
    exact ReportEntry.omitsMargins_of_single (ReportEntry.shows_ofOutcome outcome) hstatus
      haccounts.statistics_eq hsingle

/-- A case whose first sample takes the whole budget is reported with low confidence and without
margins, beside one that fails. -/
theorem report_agrees_with_outcomes_single :
    let settings : SamplingSettings Float := ⟨25, 2, 100.0, 60, .standard⟩
    let registry : Registry :=
      ⟨[Script.toCase "long" (.steady 90),
        Script.toCase "broken" (.ofEvents #[5] none [⟨1, .execution "out of patience"⟩])],
        .ofList ["long", "broken"]⟩
    ∃ result : SuiteResult Float, registry.RunsTo settings result ∧
      (result.measurements.map fun measurement ↦ measurement.samples.length) = [1] ∧
      let report := Report.ofResult result (.ofSampling 1000 settings) ⟨20000, 3723, 5000000⟩
      report.summary.AddsUp report.entries result ∧
        List.Forall₂ (fun entry outcome ↦ ∀ measurement,
          outcome.status = .completed measurement →
            measurement.samples.length = 1 → entry.OmitsMargins)
          report.entries result.outcomes := by
  intro settings registry
  have hrun : (registry.run settings 2 ⟨fun _ _ ↦ (false, ()), fun _ _ ↦ (false, ())⟩
      ⟨0, false, false, ()⟩).any fun run ↦ decide
        ((run.result.measurements.map fun measurement ↦ measurement.samples.length) = [1]) := by
    decide +kernel
  obtain ⟨run, hrun, hsingle⟩ := (Option.any_eq_true _ _).mp hrun
  have hruns : registry.RunsTo settings run.result := ⟨Unit, 2, _, _, run, hrun, rfl⟩
  obtain ⟨-, htotals, -, homits⟩ := report_agrees_with_outcomes run.result
    (.ofSampling 1000 settings) ⟨20000, 3723, 5000000⟩
  exact ⟨run.result, hruns, of_decide_eq_true hsingle, htotals, homits registry settings hruns⟩

end PushBench
