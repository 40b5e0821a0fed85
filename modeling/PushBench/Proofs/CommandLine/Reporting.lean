import Mathlib.Tactic.Set
import PushBench.Adapter.Faulty
import PushBench.Proofs.CommandLine.Trace
import PushBench.Proofs.Files.Writing
import PushBench.Proofs.Report.Console

/-!
# Runs and their reports

A run that fails before its cases are measured leaves everything as it was. A run that measures
cases hands out the complete report on them, whether or not cases failed, and nothing else gets into
the way of a report that programs read.
-/

namespace PushBench

universe u

/-- Whether an error ends a run before its cases are measured. -/
def RunError.isEarly : RunError → Bool
  | .output _ _ => false
  | _ => true

/-! ## Jobs -/

namespace Job

variable {flags : Flags} {place : Place} {register : Workload → Option DuplicateName × Registry}
  {settings : RunSettings} {registry : Registry}

/-- Cases are measured by a run that neither writes a configuration nor lists cases, with the
settings it comes to and the cases it selects. -/
theorem ofFlags_eq_measure (h : ofFlags flags place register = .ok (.measure settings registry)) :
    settingsFor flags place = .ok settings ∧
      selectedFrom (register settings.workload) flags.filter = .ok registry := by
  unfold ofFlags at h
  split at h
  next => cases h
  next =>
    split at h
    next => cases h
    next found hfound =>
      cases hselected : selectedFrom (register found.workload) flags.filter with
      | error error => simp [hselected, Except.map] at h
      | ok selected =>
        have hjob : forCases flags found selected = .measure settings registry := by
          simpa [hselected, Except.map] using h
        unfold forCases at hjob
        split at hjob
        next => cases hjob
        next =>
          split at hjob
          next => cases hjob
          next =>
            cases hjob
            exact ⟨hfound, hselected⟩

theorem ofFlags_of_run (hinit : flags.command ≠ some .init) (hlisting : isListing flags = false)
    (hsettings : settingsFor flags place = .ok settings)
    (hselected : selectedFrom (register settings.workload) flags.filter = .ok registry)
    (hcases : registry.isEmpty = false) :
    ofFlags flags place register = .ok (.measure settings registry) := by
  simp [ofFlags, hinit, hsettings, hselected, forCases, hlisting, hcases, Except.map]

end Job

/-! ## Measuring -/

namespace RunSettings

variable {ω : Type} {settings : RunSettings} {registry : Registry} {limit : Nat}
  {surroundings : Surroundings Float ω} {outside : ω}

/-- The cases that are measured: those that the check has left, if there is one. -/
def measuredCases (settings : RunSettings) (registry : Registry) : List Case :=
  if settings.verify then (registry.checkEquivalence settings.workload).2.cases else registry.cases

/-- Unless the check refuses them, the cases that are measured are the ones that are prepared. -/
theorem prepare_cases (settings : RunSettings) (registry : Registry) :
    (∃ refusal, settings.prepare registry = .error refusal) ∨
      ∃ clock, settings.prepare registry =
        .ok (clock, { registry with cases := settings.measuredCases registry }) := by
  unfold prepare measuredCases
  split
  next =>
    rcases registry.checkEquivalence settings.workload with ⟨error | count, check⟩
    · exact .inl ⟨_, rfl⟩
    · exact .inr ⟨check.elapsed, rfl⟩
  next => exact .inr ⟨0, rfl⟩

/-- An attempt that is finished has run a suite. -/
theorem exists_run_of_attempt {run : SuiteRun Float ω}
    (h : settings.attempt registry limit surroundings outside = .finished run) :
    ∃ clock, ({ registry with cases := settings.measuredCases registry } : Registry).run
      settings.sampling limit surroundings ⟨clock, false, false, outside⟩ = some run := by
  rcases settings.prepare_cases registry with ⟨refusal, hrefused⟩ | ⟨clock, hprepared⟩
  · rw [attempt, hrefused] at h
    cases h
  · rw [attempt, hprepared] at h
    dsimp only [measureFrom] at h
    split at h
    next found hfound =>
      cases h
      exact ⟨clock, hfound⟩
    next => cases h

/-- An attempt comes to an end if every case that is measured does. -/
theorem exists_attempt_ne_unfinished (settings : RunSettings) (registry : Registry)
    (hends : ∀ case ∈ settings.measuredCases registry,
      ∃ outcome, case.HasOutcome settings.sampling outcome) :
    ∃ limit, ∀ (ω : Type) (surroundings : Surroundings Float ω) (outside : ω),
      settings.attempt registry limit surroundings outside ≠ .unfinished := by
  obtain ⟨limit, hlimit⟩ := Registry.exists_run
    ({ registry with cases := settings.measuredCases registry } : Registry) hends
  refine ⟨limit, fun ω surroundings outside ↦ ?_⟩
  rcases settings.prepare_cases registry with ⟨refusal, hrefused⟩ | ⟨clock, hprepared⟩
  · simp [attempt, hrefused]
  · obtain ⟨run, hrun⟩ := hlimit ω surroundings ⟨clock, false, false, outside⟩
    simp [attempt, hprepared, measureFrom, hrun]

/-- A check that refuses cases has done nothing but build the contents of cases made from
adapters. -/
theorem actions_of_refused {error : EquivalenceError} {cases : List Case}
    {actions : List ProgramAction}
    (h : settings.attemptTraced registry limit surroundings outside =
      (.refused error cases, actions)) {action : ProgramAction} (hmem : action ∈ actions) :
    ∃ index case, action = .built index ∧ registry.cases[index]? = some case ∧
      case.IsChecked := by
  unfold attemptTraced at h
  have hmeasure {clock : Nat} {cases' : Registry} {attempt : SuiteAttempt ω}
      {actions : List ProgramAction}
      (h : settings.measureFromTraced clock cases' limit surroundings outside =
        (attempt, actions)) : attempt ≠ .refused error cases := by
    rintro rfl
    unfold measureFromTraced at h
    split at h <;> cases h
  split at h
  next =>
    split at h
    next error' check places hcheck =>
      obtain ⟨-, rfl⟩ := Prod.mk.inj h
      obtain ⟨index, hindex, rfl⟩ := List.mem_map.mp hmem
      have hplaces : places = (checkCasesTraced settings.workload.expected 0 registry.cases).2 :=
        (congrArg Prod.snd hcheck).symm
      rw [hplaces] at hindex
      obtain ⟨place, case, rfl, hcase, hchecked⟩ := exists_of_mem_checkCasesTraced hindex
      exact ⟨0 + place, case, rfl, by rwa [Nat.zero_add], hchecked⟩
    next count check places hcheck =>
      obtain ⟨hattempt, -⟩ := Prod.mk.inj h
      exact absurd hattempt (hmeasure rfl)
  next => exact absurd rfl (hmeasure h)

end RunSettings

/-! ## What is on the console -/

namespace RunSettings

/-- What a suite leaves on the console: the opening and the report for people, and nothing at all if
the report is for programs. -/
def streamed (settings : RunSettings) (registry : Registry) (result : SuiteResult Float)
    (timestamp : Timestamp) : String :=
  match settings.format with
  | .human => settings.opening registry ++ (settings.reportOf result timestamp).render .human
  | .json => ""

variable {settings : RunSettings} {registry : Registry} {limit : Nat}

theorem console_of_attempt {run : SuiteRun Float String}
    (h : settings.attempt registry limit (.listening settings.hearing)
      (settings.opening registry) = .finished run) (timestamp : Timestamp) :
    run.state.outside = settings.streamed registry run.result timestamp := by
  unfold streamed
  obtain ⟨clock, hrun⟩ := exists_run_of_attempt h
  cases hformat : settings.format with
  | human =>
    have hhears : (Surroundings.listening settings.hearing).Hears id
        LineWriter.appending.announce :=
      ⟨fun event text ↦ by simp [Surroundings.listening, hearing, hformat], fun _ _ ↦ rfl⟩
    exact hhears.report hrun _ timestamp
  | json =>
    have hhears : (Surroundings.listening settings.hearing).Hears id fun _ text ↦ text :=
      ⟨fun event text ↦ by simp [Surroundings.listening, hearing, hformat], fun _ _ ↦ rfl⟩
    have hopening : settings.opening registry = "" := by simp [opening, hformat]
    exact (hhears.run hrun).trans ((hearAll_const _ _).trans hopening)

end RunSettings

/-! ## Handing out -/

/-- A report that goes to a file is handed out whatever its format is. -/
theorem RunSettings.handout_of_output {settings : RunSettings} {shown : String}
    (h : settings.output = some shown) (result : SuiteResult Float) (timestamp : Timestamp) :
    settings.handout result timestamp =
      some ((settings.reportOf result timestamp).render settings.format, some shown) := by
  unfold handout
  cases settings.format <;> simp [h]

namespace Ending

variable {ending : Ending} {result : SuiteResult Float}

/-- Whatever the cases come to, a run fails with an error iff it has before. -/
theorem withResult_eq_failed_iff {error : RunError} :
    ending.withResult result = .failed error ↔ ending = .failed error := by
  cases ending with
  | succeeded =>
    unfold withResult
    dsimp only
    split <;> simp
  | casesFailed count => rfl
  | failed other => rfl

/-- A run that has done all it had to do fails iff a case did. -/
theorem exitCode_withResult :
    (withResult .succeeded result).exitCode ≠ 0 ↔
      ∃ outcome ∈ result.outcomes, outcome.isFailed = true := by
  rw [← List.any_eq_true, ← SuiteResult.hasFailures, withResult]
  cases hfailures : result.hasFailures <;> simp [exitCode]

end Ending

namespace Transcript

section

variable {transcript : Transcript} {directory : Path} {text shown : String}

theorem deliver_of_write {files : FileTree}
    (h : transcript.files.write (.ofText directory shown) text = .ok files) :
    transcript.deliver directory text (some shown) =
      { transcript with
        files, notices := transcript.notices ++ "Report written to: " ++ shown ++ "\n" } := by
  simp only [deliver, h]

theorem deliver_of_not_write {reason : FileError}
    (h : transcript.files.write (.ofText directory shown) text = .error reason) :
    transcript.deliver directory text (some shown) =
      { transcript with ending := .failed (.output shown reason) } := by
  simp only [deliver, h]

/-- A run that has succeeded so far fails by handing out a text only if that cannot be written. -/
theorem ending_deliver (h : transcript.ending = .succeeded) (directory : Path) (text : String)
    (output : Option String) :
    (transcript.deliver directory text output).ending = .succeeded ∨
      ∃ shown reason,
        (transcript.deliver directory text output).ending = .failed (.output shown reason) := by
  cases output with
  | none => exact .inl h
  | some shown =>
    cases hwrite : transcript.files.write (.ofText directory shown) text with
    | ok files =>
      rw [deliver_of_write hwrite]
      exact .inl h
    | error reason =>
      rw [deliver_of_not_write hwrite]
      exact .inr ⟨shown, reason, rfl⟩

end

/-- What a run leaves behind that has measured cases with some settings, where the run is that of a
suite: the whole report is where it is to go. -/
structure Reports (transcript : Transcript) (settings : RunSettings) (registry : Registry)
    (place : Place) (timestamp : Timestamp) (run : SuiteRun Float String) : Prop where
  result : transcript.result = some run.result
  /-- People read the opening and the lines of the report as they come. If the report is for
  programs, the console holds it and nothing else, and nothing at all if it goes to a file. -/
  console : transcript.console =
    match settings.format, settings.output with
    | .human, _ =>
      settings.opening registry ++ (settings.reportOf run.result timestamp).render .human
    | .json, none => (settings.reportOf run.result timestamp).render .json
    | .json, some _ => ""
  /-- The report is in the output file, if there is one that can be written. No other file is
  written, and none where it cannot. -/
  files :
    match settings.output with
    | none => transcript.files = place.files
    | some shown =>
      let path := Path.ofText place.directory shown
      let text := (settings.reportOf run.result timestamp).render settings.format
      match place.files.write path text with
      | .ok files => transcript.files = files ∧ files.read path = .ok text.toUTF8
      | .error reason =>
        transcript.files = place.files ∧ transcript.ending = .failed (.output shown reason)
  /-- The run fails iff a case did or the report could not be written. -/
  exitCode : transcript.ending.exitCode ≠ 0 ↔
    (∃ outcome ∈ run.result.outcomes, outcome.isFailed = true) ∨
      ∃ shown reason, settings.output = some shown ∧
        place.files.write (Path.ofText place.directory shown)
          ((settings.reportOf run.result timestamp).render settings.format) = .error reason

section

variable (transcript : Transcript) (result : SuiteResult Float)

@[simp]
theorem closeWith_console : (transcript.closeWith result).console = transcript.console := rfl

@[simp]
theorem closeWith_files : (transcript.closeWith result).files = transcript.files := rfl

@[simp]
theorem closeWith_result : (transcript.closeWith result).result = transcript.result := rfl

@[simp]
theorem closeWith_ending :
    (transcript.closeWith result).ending = transcript.ending.withResult result := rfl

end

variable {transcript : Transcript} {result : SuiteResult Float}

variable {settings : RunSettings} {registry : Registry} {place : Place} {timestamp : Timestamp}
  {run : SuiteRun Float String}

/-- A run that has measured its cases fails with an error only if the report cannot be written. -/
theorem ending_of_ofRun {error : RunError}
    (h : (ofRun settings place timestamp run).ending = .failed error) :
    ∃ shown reason, error = .output shown reason := by
  have hdelivered := Ending.withResult_eq_failed_iff.mp h
  split at hdelivered
  next => cases hdelivered
  next text output hhandout =>
    have hmeasured : (Transcript.mk run.state.outside "" place.files (some run.result)
        run.cases .succeeded).ending = .succeeded := rfl
    rcases ending_deliver hmeasured place.directory text output with
      hdone | ⟨shown, reason, hfailed⟩
    · cases hdone.symm.trans hdelivered
    · exact ⟨shown, reason, Ending.failed.inj (hdelivered.symm.trans hfailed)⟩

/-- A report that goes to a file. -/
theorem reports_deliver_some {shown : String} (houtput : settings.output = some shown)
    (hending : transcript.ending = .succeeded) (hresult : transcript.result = some run.result)
    (hfiles : transcript.files = place.files)
    (hconsole : transcript.console = settings.streamed registry run.result timestamp) :
    ((transcript.deliver place.directory
      ((settings.reportOf run.result timestamp).render settings.format)
      (some shown)).closeWith run.result).Reports settings registry place timestamp run := by
  set text := (settings.reportOf run.result timestamp).render settings.format with htext
  have hconsole : transcript.console =
      match settings.format, settings.output with
      | .human, _ =>
        settings.opening registry ++ (settings.reportOf run.result timestamp).render .human
      | .json, none => (settings.reportOf run.result timestamp).render .json
      | .json, some _ => "" := by
    rw [hconsole, houtput, RunSettings.streamed]
    cases settings.format <;> rfl
  cases hwrite : place.files.write (.ofText place.directory shown) text with
  | ok files =>
    rw [deliver_of_write (by rwa [hfiles])]
    exact
      { result := by simpa using hresult
        console := by simpa using hconsole
        files := by
          simp only [houtput, ← htext, hwrite, closeWith_files]
          exact ⟨trivial, FileTree.read_of_write hwrite⟩
        exitCode := by
          rw [closeWith_ending, hending, Ending.exitCode_withResult]
          simp [houtput, ← htext, hwrite] }
  | error reason =>
    rw [deliver_of_not_write (by rwa [hfiles])]
    have hfailed : (({ transcript with ending := .failed (.output shown reason) } :
        Transcript).closeWith run.result).ending = .failed (.output shown reason) := rfl
    exact
      { result := by simpa using hresult
        console := by simpa using hconsole
        files := by
          simp only [houtput, ← htext, hwrite, closeWith_files]
          exact ⟨hfiles, hfailed⟩
        exitCode := by
          rw [hfailed]
          simp [houtput, ← htext, hwrite, Ending.exitCode] }

/-- A report that goes to the console. -/
theorem reports_none (houtput : settings.output = none)
    (hending : transcript.ending = .succeeded) (hresult : transcript.result = some run.result)
    (hfiles : transcript.files = place.files)
    (hconsole : transcript.console =
      match settings.format with
      | .human =>
        settings.opening registry ++ (settings.reportOf run.result timestamp).render .human
      | .json => (settings.reportOf run.result timestamp).render .json) :
    (transcript.closeWith run.result).Reports settings registry place timestamp run where
  result := by simpa using hresult
  console := by
    rw [closeWith_console, hconsole, houtput]
    cases settings.format <;> rfl
  files := by simpa [houtput] using hfiles
  exitCode := by
    rw [closeWith_ending, hending, Ending.exitCode_withResult]
    simp [houtput]

/-- Cases that have been measured are reported. -/
theorem reports_ofRun
    (hconsole : run.state.outside = settings.streamed registry run.result timestamp) :
    (ofRun settings place timestamp run).Reports settings registry place timestamp run := by
  unfold ofRun
  cases houtput : settings.output with
  | some shown =>
    rw [RunSettings.handout_of_output houtput]
    exact reports_deliver_some houtput rfl rfl rfl hconsole
  | none =>
    cases hformat : settings.format with
    | human =>
      have hnothing : settings.handout run.result timestamp = none := by
        simp [RunSettings.handout, hformat, houtput]
      rw [RunSettings.streamed, hformat] at hconsole
      rw [hnothing]
      exact reports_none houtput rfl rfl rfl (by rw [hformat]; exact hconsole)
    | json =>
      let text := (settings.reportOf run.result timestamp).render .json
      have hhandout : settings.handout run.result timestamp = some (text, none) := by
        simp [RunSettings.handout, hformat, houtput, text]
      rw [RunSettings.streamed, hformat] at hconsole
      have htext : run.state.outside ++ text = text := by rw [hconsole]; exact String.empty_append
      rw [hhandout]
      exact reports_none houtput rfl rfl rfl (by rw [hformat]; exact htext)

end Transcript

/-! ## The whole run -/

section

variable {flags : Flags} {place : Place} {register : Workload → Option DuplicateName × Registry}
  {limit : Nat} {timestamp : Timestamp} {transcript : Transcript} {actions : List ProgramAction}

/-- A run with an early error has not got beyond the check. -/
theorem Job.performTraced_of_isEarly {job : Job} {error : RunError}
    (h : job.performTraced place limit timestamp = some (transcript, actions))
    (hending : transcript.ending = .failed error) (hearly : error.isEarly = true) :
    ∃ settings registry mismatches cases, job = .measure settings registry ∧
      error = .equivalence mismatches ∧
      settings.attemptTraced registry limit (.listening settings.hearing)
        (settings.opening registry) = (.refused mismatches cases, actions) ∧
      transcript = { files := place.files, console := settings.opening registry, cases,
                     ending := .failed (.equivalence mismatches) } := by
  have hlate {shown : String} {reason : FileError} : error ≠ .output shown reason := by
    rintro rfl
    cases hearly
  cases job with
  | deliver text output =>
    obtain ⟨rfl, -⟩ := Prod.mk.inj (Option.some.inj h)
    rcases Transcript.ending_deliver (show ({ files := place.files } : Transcript).ending =
      .succeeded from rfl) place.directory text output with hdone | ⟨shown, reason, hfailed⟩
    · cases hdone.symm.trans hending
    · exact absurd (Ending.failed.inj (hending.symm.trans hfailed)) hlate
  | present text =>
    obtain ⟨rfl, -⟩ := Prod.mk.inj (Option.some.inj h)
    cases hending
  | measure settings registry =>
    unfold performTraced at h
    dsimp only at h
    split at h
    next mismatches cases done hattempt =>
      obtain ⟨rfl, rfl⟩ := Prod.mk.inj (Option.some.inj h)
      cases hending
      exact ⟨settings, registry, mismatches, cases, rfl, rfl, hattempt, rfl⟩
    next => cases h
    next run done hattempt =>
      obtain ⟨rfl, -⟩ := Prod.mk.inj (Option.some.inj h)
      obtain ⟨shown, reason, houtput⟩ := Transcript.ending_of_ofRun hending
      exact absurd houtput hlate

end

/-- A run that ends with an error before its cases are measured writes no file, invokes no body and
hands nothing out: it has done nothing at all, or it has built the contents of cases made from
adapters for a check that they did not pass.

A run that neither writes a configuration nor lists cases, and that gets beyond all this with at
least one case, has run a suite; the report on its result is complete and is the last thing that the
run does. It comes to an end if every case that it measures does. -/
theorem run_reports_in_full (flags : Flags) (place : Place)
    (register : Workload → Option DuplicateName × Registry) (timestamp : Timestamp) :
    (∀ limit transcript error,
      flags.run place register limit timestamp = some transcript →
      transcript.ending = .failed error → error.isEarly = true →
        transcript.files = place.files ∧ transcript.result = none ∧
        ∃ actions, flags.runTraced place register limit timestamp = some (transcript, actions) ∧
          (actions = [] ∧ transcript.console = "" ∨
            ∃ settings registry mismatches, error = .equivalence mismatches ∧
              Job.settingsFor flags place = .ok settings ∧
              Job.selectedFrom (register settings.workload) flags.filter = .ok registry ∧
              transcript.console = settings.opening registry ∧
              ∀ action ∈ actions, ∃ index case, action = .built index ∧
                registry.cases[index]? = some case ∧ case.IsChecked)) ∧
    ∀ settings registry, flags.command ≠ some .init → Job.isListing flags = false →
      Job.settingsFor flags place = .ok settings →
      Job.selectedFrom (register settings.workload) flags.filter = .ok registry →
      registry.isEmpty = false →
        (∀ limit transcript,
          flags.run place register limit timestamp = some transcript →
          (∀ mismatches, transcript.ending ≠ .failed (.equivalence mismatches)) →
            ∃ run done,
              settings.attempt registry limit (.listening settings.hearing)
                (settings.opening registry) = .finished run ∧
              settings.attemptTraced registry limit (.listening settings.hearing)
                (settings.opening registry) = (.finished run, done) ∧
              flags.runTraced place register limit timestamp =
                some (transcript, done ++ settings.deliveries timestamp run.result) ∧
              transcript.Reports settings registry place timestamp run) ∧
        ((∀ case ∈ settings.measuredCases registry,
            ∃ outcome, case.HasOutcome settings.sampling outcome) →
          ∃ limit transcript, flags.run place register limit timestamp = some transcript) := by
  refine ⟨fun limit transcript error hrun hending hearly ↦ ?_,
    fun settings registry hinit hlisting hsettings hselected hcases ↦ ?_⟩
  · obtain ⟨actions, htraced⟩ := Flags.exists_runTraced_of_run hrun
    have hdone := htraced
    unfold Flags.runTraced at hdone
    split at hdone
    next =>
      obtain ⟨rfl, rfl⟩ := Prod.mk.inj (Option.some.inj hdone)
      exact ⟨rfl, rfl, [], htraced, .inl ⟨rfl, rfl⟩⟩
    next job hjob =>
      obtain ⟨settings, registry, mismatches, cases, rfl, rfl, hattempt, rfl⟩ :=
        Job.performTraced_of_isEarly hdone hending hearly
      obtain ⟨hsettings, hselected⟩ := Job.ofFlags_eq_measure hjob
      exact ⟨rfl, rfl, actions, htraced, .inr ⟨settings, registry, mismatches, rfl, hsettings,
        hselected, rfl, fun action hmem ↦ RunSettings.actions_of_refused hattempt hmem⟩⟩
  · have hjob := Job.ofFlags_of_run hinit hlisting hsettings hselected hcases
    refine ⟨fun limit transcript hrun hchecked ↦ ?_, fun hends ↦ ?_⟩
    · obtain ⟨actions, htraced⟩ := Flags.exists_runTraced_of_run hrun
      have hdone := htraced
      rw [Flags.runTraced, hjob] at hdone
      dsimp only [Job.performTraced] at hdone
      split at hdone
      next mismatches cases done hattempt =>
        obtain ⟨rfl, -⟩ := Prod.mk.inj (Option.some.inj hdone)
        exact absurd rfl (hchecked mismatches)
      next => cases hdone
      next run done hattempt =>
        obtain ⟨rfl, rfl⟩ := Prod.mk.inj (Option.some.inj hdone)
        have hfinished := congrArg Prod.fst hattempt
        rw [RunSettings.attemptTraced_fst] at hfinished
        exact ⟨run, done, hfinished, hattempt, htraced,
          Transcript.reports_ofRun (RunSettings.console_of_attempt hfinished timestamp)⟩
    · obtain ⟨limit, hlimit⟩ := settings.exists_attempt_ne_unfinished registry hends
      have hattempt := hlimit String (.listening settings.hearing) (settings.opening registry)
      refine ⟨limit, ?_⟩
      rw [Flags.run, hjob]
      dsimp only [Job.perform]
      split
      next => exact ⟨_, rfl⟩
      next hunfinished => exact absurd hunfinished hattempt
      next => exact ⟨_, rfl⟩

theorem eq_ok_of_toOption {ε : Type} {α : Type u} {answer : Except ε α} {value : α}
    (h : answer.toOption = some value) : answer = .ok value := by
  cases answer with
  | error error => cases h
  | ok other => exact congrArg _ (Option.some.inj h)

/-- A run that the check refuses, beside a case that was not made from an adapter; and a run of
which one case panics, reported for programs. -/
theorem run_reports_in_full_failing :
    let place : Place := ⟨.empty, []⟩
    let steady := Script.toCase "steady" (.steady 10)
    let failing := Script.toCase "failing" (.ofEvents #[5] none [⟨3, .panicked "out of patience"⟩])
    let broken (workload : Workload) :=
      Case.ofAdapter (.faulty "broken" .collected none { dropped := some 1 }) {} workload
    let checked : Flags := { verify := true, len := some 3, output := some "report.json" }
    let reported : Flags :=
      { window := some "20ns", minSamples := some 2, target := some 100.0, format := some "json" }
    let refusing (workload : Workload) : Option DuplicateName × Registry :=
      (none, ⟨[steady, broken workload], ∅⟩)
    let agreeing (_ : Workload) : Option DuplicateName × Registry := (none, ⟨[steady, failing], ∅⟩)
    (∃ transcript actions,
      checked.run place refusing 5 ⟨0, 0, 0⟩ = some transcript ∧
        checked.runTraced place refusing 5 ⟨0, 0, 0⟩ = some (transcript, actions) ∧
        transcript.files = place.files ∧ transcript.result = none) ∧
      (∃ limit transcript, reported.run place agreeing limit ⟨0, 0, 0⟩ = some transcript) ∧
      ∃ transcript actions settings result,
        reported.run place agreeing 5 ⟨0, 0, 0⟩ = some transcript ∧
          reported.runTraced place agreeing 5 ⟨0, 0, 0⟩ = some (transcript, actions) ∧
          transcript.result = some result ∧ transcript.files = place.files ∧
          transcript.console = (RunSettings.reportOf settings result ⟨0, 0, 0⟩).render .json ∧
          transcript.ending.exitCode ≠ 0 := by
  intro place steady failing broken checked reported refusing agreeing
  refine ⟨?_, ?_⟩
  · let refused : Ending → Bool
      | .failed (.equivalence _) => true
      | _ => false
    have hrun : (checked.run place refusing 5 ⟨0, 0, 0⟩).map (refused ·.ending) = some true := by
      decide +kernel
    obtain ⟨transcript, hrun, hrefused⟩ := Option.map_eq_some_iff.mp hrun
    obtain ⟨mismatches, hending⟩ : ∃ mismatches,
        transcript.ending = .failed (.equivalence mismatches) := by
      simp only [refused] at hrefused
      split at hrefused
      next mismatches hending => exact ⟨mismatches, hending⟩
      next => cases hrefused
    obtain ⟨hfiles, hresult, actions, htraced, -⟩ :=
      (run_reports_in_full checked place refusing ⟨0, 0, 0⟩).1 5 transcript _ hrun hending rfl
    exact ⟨transcript, actions, hrun, htraced, hfiles, hresult⟩
  · let cases : Registry := ⟨[steady, failing], ∅⟩
    have hsettings : (Job.settingsFor reported place).toOption.map
        (fun settings ↦ (settings.format, settings.output)) = some (.json, none) := by
      decide +kernel
    have hselected : (Job.selectedFrom (none, cases) ".*").toOption.map Registry.isEmpty =
        some false := by decide +kernel
    have hends : ((Job.settingsFor reported place).toOption.bind fun settings ↦
        (Job.selectedFrom (none, cases) ".*").toOption.map fun registry ↦
          (settings.measuredCases registry).all fun case ↦
            (Bench.measure settings.sampling 2 ⟨case, 0, false⟩).1.isSome) = some true := by
      decide +kernel
    have hrun : (reported.run place agreeing 5 ⟨0, 0, 0⟩).map (fun transcript ↦
        match transcript.ending with
        | .casesFailed count => count
        | _ => 0) = some 1 := by decide +kernel
    obtain ⟨settings, hsettings, hformat⟩ := Option.map_eq_some_iff.mp hsettings
    obtain ⟨registry, hselected, hnonempty⟩ := Option.map_eq_some_iff.mp hselected
    obtain ⟨transcript, hrun, hending⟩ := Option.map_eq_some_iff.mp hrun
    obtain ⟨hformat, houtput⟩ := Prod.mk.inj hformat
    have hending : transcript.ending = .casesFailed 1 := by
      split at hending
      next count hcount => rw [hcount, hending]
      next => cases hending
    rw [hsettings, Option.bind_some, hselected, Option.map_some] at hends
    obtain ⟨hreported, hended⟩ := (run_reports_in_full reported place agreeing ⟨0, 0, 0⟩).2 settings
      registry (by simp [reported]) rfl (eq_ok_of_toOption hsettings)
      (eq_ok_of_toOption hselected) hnonempty
    obtain ⟨run, done, -, -, htraced, hreports⟩ := hreported 5 transcript hrun
      fun mismatches hrefused ↦ by cases hending.symm.trans hrefused
    have hconsole := hreports.console
    have hfiles := hreports.files
    rw [hformat, houtput] at hconsole
    rw [houtput] at hfiles
    refine ⟨hended (exists_hasOutcome 2 (Option.some.inj hends)), ?_⟩
    exact ⟨transcript, _, settings, run.result, hrun, htraced, hreports.result, hfiles, hconsole,
      by simp [hending, Ending.exitCode]⟩

end PushBench
