import PushBench.Proofs.Suite.Order
import PushBench.Proofs.Suite.Surroundings
import PushBench.Report.Format
import PushBench.Script
import PushBench.Suite.Rehearsal

/-!
# A console beside a suite

A console hears of a suite line by line. If it takes every line, it ends up with the text of the
report that is made when the suite is over. Whether it takes them or not, the suite is the same.
-/

namespace PushBench

variable {ω υ : Type}

/-! ## Lines -/

theorem joinLines_cons (line : String) (lines : List String) :
    joinLines (line :: lines) = line ++ "\n" ++ joinLines lines := by
  simp [joinLines]

namespace LineWriter

theorem writeAll_append (writer : LineWriter υ) (first second : List String) (console : υ) :
    writer.writeAll (first ++ second) console =
      writer.writeAll second (writer.writeAll first console) :=
  List.foldl_append

/-- A writer that appends lines makes them into a text. -/
theorem writeAll_appending (lines : List String) (text : String) :
    appending.writeAll lines text = text ++ joinLines lines := by
  induction lines generalizing text with
  | nil => simp [writeAll, joinLines]
  | cons line rest ih =>
    calc
      appending.writeAll (line :: rest) text = appending.writeAll rest (text ++ line ++ "\n") := rfl
      _ = text ++ joinLines (line :: rest) := by
        rw [ih, joinLines_cons, String.append_assoc, String.append_assoc, String.append_assoc]

/-- Events are announced as the lines of all of them, one after the other. -/
theorem hearAll_announce (writer : LineWriter υ) (events : List (SuiteEvent Float)) (console : υ) :
    hearAll writer.announce events console =
      writer.writeAll (events.flatMap SuiteEvent.lines) console := by
  induction events generalizing console with
  | nil => rfl
  | cons event events ih =>
    rw [List.flatMap_cons, writeAll_append]
    exact ih _

end LineWriter

namespace SuiteResult

variable (result : SuiteResult Float) (settings : ReportSettings) (timestamp : Timestamp)

/-- The lines of the events of a suite are those of the report on its result. -/
theorem flatMap_lines_events (size : Nat) :
    (result.events size).flatMap SuiteEvent.lines =
      (Report.ofResult result settings timestamp).lines := by
  have hfinished (outcomes : List (CaseOutcome Float)) :
      (outcomes.map SuiteEvent.finished).flatMap SuiteEvent.lines =
        (outcomes.map ReportEntry.ofOutcome).map ReportEntry.line := by
    induction outcomes with
    | nil => rfl
    | cons outcome outcomes ih => exact congrArg (List.cons _) ih
  rw [events, List.cons_append, List.flatMap_cons, List.flatMap_append, hfinished]
  simp [SuiteEvent.lines, Report.lines, Report.ofResult]

end SuiteResult

/-! ## Consoles -/

section

variable {surroundings : Surroundings Float ω} {heard : ω → String}
  {settings : SamplingSettings Float} {limit : Nat} {state : SuiteState ω} {registry : Registry}

/-- Whoever writes down every line that announces a suite ends up with the text of the report on
it. -/
theorem Surroundings.Hears.report (h : surroundings.Hears heard LineWriter.appending.announce)
    {run : SuiteRun Float ω} (hrun : registry.run settings limit surroundings state = some run)
    (reportSettings : ReportSettings) (timestamp : Timestamp) :
    heard run.state.outside =
      heard state.outside ++
        (Report.ofResult run.result reportSettings timestamp).render .human := by
  rw [h.run hrun, LineWriter.hearAll_announce, LineWriter.writeAll_appending,
    SuiteResult.flatMap_lines_events run.result reportSettings timestamp]
  rfl

/-- The console of a rehearsal is written to line by line. -/
theorem RehearsalPlan.hears (plan : RehearsalPlan) :
    plan.surroundings.Hears RehearsalRecord.console plan.writer.announce where
  notify event record := by cases event <;> rfl
  poll signalled record := by
    unfold RehearsalPlan.surroundings
    dsimp only
    cases plan.interruptAt <;> rfl

/-- A rehearsal whose console takes lines ends with the text of the report on it. -/
theorem RehearsalPlan.console_eq {plan : RehearsalPlan} (hworks : plan.consoleBroken = false)
    {start : SuiteState RehearsalRecord} {run : SuiteRun Float RehearsalRecord}
    (hrun : registry.run settings limit plan.surroundings start = some run)
    (reportSettings : ReportSettings) (timestamp : Timestamp) :
    run.state.outside.console =
      start.outside.console ++
        (Report.ofResult run.result reportSettings timestamp).render .human := by
  have hwriter : plan.writer = .appending := by simp [writer, hworks]
  exact (hwriter ▸ plan.hears).report hrun reportSettings timestamp

end

namespace Surroundings

/-- Surroundings beside which a suite is announced to a console. -/
def announcing (surroundings : Surroundings Float ω) (writer : LineWriter υ) :
    Surroundings Float (ω × υ) where
  notify event state := Prod.map id (·, writer.announce event state.2)
    (surroundings.notify event state.1)
  poll signalled state := Prod.map id (·, state.2) (surroundings.poll signalled state.1)

variable (surroundings : Surroundings Float ω) (writer : LineWriter υ)

/-- The surroundings do not know of the console beside them. -/
theorem announcing_seenAs : (surroundings.announcing writer).SeenAs Prod.fst surroundings :=
  ⟨fun _ _ ↦ rfl, fun _ _ ↦ rfl⟩

theorem announcing_hears : (surroundings.announcing writer).Hears Prod.snd writer.announce :=
  ⟨fun _ _ ↦ rfl, fun _ _ ↦ rfl⟩

/-- A suite comes to the same beside a console as without one, in the same way. -/
theorem exists_runTraced_announcing {registry : Registry} {settings : SamplingSettings Float}
    {limit : Nat} {state : SuiteState ω} {run : SuiteRun Float ω}
    {trace : List (SuiteAction Float)}
    (htrace : registry.runTraced settings limit surroundings state = some (run, trace))
    (console : υ) :
    ∃ console', registry.runTraced settings limit (surroundings.announcing writer)
      (state.map (·, console)) = some (run.map (·, console'), trace) := by
  have hview : registry.runTraced settings limit surroundings state = _ :=
    (surroundings.announcing_seenAs writer).runTraced registry (state.map (·, console))
  obtain ⟨⟨beside, trace'⟩, hbeside, hsame⟩ := Option.map_eq_some_iff.mp (hview.symm.trans htrace)
  obtain ⟨rfl, rfl⟩ := Prod.mk.inj hsame
  exact ⟨beside.state.outside.2, hbeside⟩

end Surroundings

/-- Suites come to an end whatever console is beside them, and the console is of no matter to them:
for every writer and whichever lines it takes, the suite has the same result, invokes the same cases
in the same order, asks and is answered the same, and the clock shows the same. A console that takes
every line holds, when the suite is over, exactly the text of the report on its result, for any
settings and time that the report names. -/
theorem console_streams_report (registry : Registry) (settings : SamplingSettings Float) :
    ((∀ case ∈ registry.cases, ∃ outcome, case.HasOutcome settings outcome) →
      ∃ limit, ∀ (ω : Type) (surroundings : Surroundings Float ω) (state : SuiteState ω),
        ∃ run, registry.run settings limit surroundings state = some run) ∧
    ∀ (ω : Type) (limit : Nat) (surroundings : Surroundings Float ω) (state : SuiteState ω)
      (run : SuiteRun Float ω), registry.run settings limit surroundings state = some run →
      ∃ trace, registry.runTraced settings limit surroundings state = some (run, trace) ∧
        (∀ (υ : Type) (writer : LineWriter υ) (console : υ), ∃ console',
          registry.runTraced settings limit (surroundings.announcing writer)
            (state.map (·, console)) = some (run.map (·, console'), trace)) ∧
        ∀ (text : String) (reportSettings : ReportSettings) (timestamp : Timestamp),
          registry.runTraced settings limit (surroundings.announcing .appending)
              (state.map (·, text)) =
            some (run.map (·, text ++
              (Report.ofResult run.result reportSettings timestamp).render .human), trace) := by
  refine ⟨registry.exists_run, fun ω limit surroundings state run hrun ↦ ?_⟩
  obtain ⟨trace, htrace, -⟩ := registry.exists_runTraced_eq hrun
  refine ⟨trace, htrace,
    fun υ writer console ↦ surroundings.exists_runTraced_announcing writer htrace console,
    fun text reportSettings timestamp ↦ ?_⟩
  obtain ⟨console, hbeside⟩ := surroundings.exists_runTraced_announcing .appending htrace text
  have hrun := congrArg (Option.map Prod.fst) hbeside
  rw [Registry.runTraced_map_fst] at hrun
  have hconsole : console = _ :=
    (surroundings.announcing_hears .appending).report hrun reportSettings timestamp
  rw [hbeside, hconsole]
  rfl

/-- A suite that is cancelled after a case that panicked: the lines that were streamed are those of
the report, and nothing changes beside a console that takes no line. -/
theorem console_streams_report_cancelled :
    let settings : SamplingSettings Float := ⟨25, 2, 100.0, 60, .standard⟩
    let registry : Registry :=
      ⟨[Script.toCase "a" (.steady 10),
        Script.toCase "broken" (.ofEvents #[5] none [⟨3, .panicked "out of patience"⟩]),
        Script.toCase "late" (.steady 10)], .ofList ["a", "broken", "late"]⟩
    let surroundings := ({ cancelAfter := some 2 } : RehearsalPlan).surroundings
    let state : SuiteState RehearsalRecord := ⟨1000, false, false, {}⟩
    let text := "a x 100,000,000 ops/sec ±0.00% (2 runs sampled)\n" ++
      "broken: FAILED (panic) out of patience\nCancelled after 2 case(s)\nFastest is a\n"
    (∃ limit run, registry.run settings limit surroundings state = some run) ∧
    ∃ (run : SuiteRun Float RehearsalRecord) (trace : List (SuiteAction Float)),
      (Report.ofResult run.result (.ofSampling 1 settings) ⟨0, 0, 0⟩).render .human = text ∧
        registry.runTraced settings 5 (surroundings.announcing .appending) (state.map (·, "")) =
          some (run.map (·, "" ++ text), trace) ∧
        registry.runTraced settings 5 (surroundings.announcing .broken) (state.map (·, ())) =
          some (run.map (·, ()), trace) := by
  intro settings registry surroundings state text
  obtain ⟨limit, hends⟩ := (console_streams_report registry settings).1
    (exists_hasOutcome 2 (by decide +kernel))
  have hrun : (registry.run settings 5 surroundings state).map (fun run ↦
      (Report.ofResult run.result (.ofSampling 1 settings) ⟨0, 0, 0⟩).render .human) =
        some text := by decide +kernel
  obtain ⟨run, hrun, htext⟩ := Option.map_eq_some_iff.mp hrun
  obtain ⟨trace, -, hbeside, hreport⟩ :=
    (console_streams_report registry settings).2 _ 5 surroundings state run hrun
  have hstreamed := hreport "" (.ofSampling 1 settings) ⟨0, 0, 0⟩
  obtain ⟨⟨⟩, hbroken⟩ := hbeside Unit .broken ()
  rw [htext] at hstreamed
  exact ⟨⟨limit, hends _ surroundings state⟩, run, trace, htext, hstreamed, hbroken⟩

end PushBench
