import PushBench.CommandLine.Transcript
import PushBench.Proofs.Suite.Trace

/-!
# Traces of the program

A traced run writes down what is done with cases and with texts: which contents are built for the
check, what the suite does, and what is handed out. Apart from the trace it is the run itself.
-/

namespace PushBench

/-- What the program does with cases and texts. -/
inductive ProgramAction where
  /-- The contents of the case in a place are built for the check. -/
  | built (place : Nat)
  /-- The suite does something. -/
  | measured (action : SuiteAction Float)
  /-- A text is handed out: to the output file, or to the console if there is none. -/
  | delivered (text : String) (output : Option String)

/-! ## The check -/

/-- Whether the check builds the contents of a case: it was made from an adapter, and it is not to
be skipped. -/
def Case.IsChecked (case : Case) : Prop := case.skipReason = none ∧ case.contents.isSome

/-- Checks cases one after the other and writes down whose contents are built. The first case has a
given place. -/
def checkCasesTraced (expected : List Element) : Nat → List Case → EquivalenceCheck × List Nat
  | _, [] => (⟨0, [], 0, []⟩, [])
  | place, case :: rest =>
    let (after, places) := checkCasesTraced expected (place + 1) rest
    match case.skipReason, case.materialize with
    | none, some (reply, case) =>
      ({ checked := after.checked + 1
         mismatches :=
           match missed expected reply.answer with
           | some detail => ⟨case.name, detail⟩ :: after.mismatches
           | none => after.mismatches
         elapsed := reply.elapsed + after.elapsed
         cases := case :: after.cases }, place :: places)
    | _, _ => ({ after with cases := case :: after.cases }, places)

theorem checkCasesTraced_fst (expected : List Element) (place : Nat) (cases : List Case) :
    (checkCasesTraced expected place cases).1 = checkCases expected cases := by
  induction cases generalizing place with
  | nil => rfl
  | cons case rest ih =>
    simp only [checkCasesTraced, checkCases, ← ih (place + 1)]
    cases case.skipReason with
    | some reason => rfl
    | none => cases case.materialize <;> rfl

/-- Only the contents of cases that are checked are built. -/
theorem exists_of_mem_checkCasesTraced {expected : List Element} {first place : Nat}
    {cases : List Case} (h : place ∈ (checkCasesTraced expected first cases).2) :
    ∃ index case, place = first + index ∧ cases[index]? = some case ∧ case.IsChecked := by
  induction cases generalizing first with
  | nil => simp [checkCasesTraced] at h
  | cons case rest ih =>
    have hrest : place ∈ (checkCasesTraced expected (first + 1) rest).2 →
        ∃ index other, place = first + index ∧ (case :: rest)[index]? = some other ∧
          other.IsChecked := by
      intro hmem
      obtain ⟨index, other, hplace, hother, hchecked⟩ := ih hmem
      exact ⟨index + 1, other, by omega, by simpa using hother, hchecked⟩
    simp only [checkCasesTraced] at h
    split at h
    next reply after hskip hbuilt =>
      rcases List.mem_cons.mp h with rfl | h
      · have hcontents : case.contents.isSome := by
          obtain ⟨contents, hcontents, -⟩ := Option.map_eq_some_iff.mp hbuilt
          simp [hcontents]
        exact ⟨0, case, rfl, rfl, hskip, hcontents⟩
      · exact hrest h
    next => exact hrest h

/-- Checks all cases of a registry and writes down whose contents are built. -/
def Registry.checkEquivalenceTraced (registry : Registry) (workload : Workload) :
    (Except EquivalenceError Nat × EquivalenceCheck) × List Nat :=
  let (check, places) := checkCasesTraced workload.expected 0 registry.cases
  ((check.answer workload, check), places)

theorem Registry.checkEquivalenceTraced_fst (registry : Registry) (workload : Workload) :
    (registry.checkEquivalenceTraced workload).1 = registry.checkEquivalence workload := by
  simp only [checkEquivalenceTraced, checkEquivalence, checkCasesTraced_fst]

/-! ## Measuring -/

namespace RunSettings

variable {ω : Type}

/-- Measures the cases of a registry from a time on, and writes down what is done. -/
def measureFromTraced (settings : RunSettings) (clock : Nat) (registry : Registry) (limit : Nat)
    (surroundings : Surroundings Float ω) (outside : ω) :
    SuiteAttempt ω × List ProgramAction :=
  match registry.runTraced settings.sampling limit surroundings ⟨clock, false, false, outside⟩ with
  | some (run, actions) => (.finished run, actions.map .measured)
  | none => (.unfinished, [])

/-- Measures the cases of a registry, after their contents have been checked if that is asked for,
and writes down what is done. -/
def attemptTraced (settings : RunSettings) (registry : Registry) (limit : Nat)
    (surroundings : Surroundings Float ω) (outside : ω) :
    SuiteAttempt ω × List ProgramAction :=
  if settings.verify then
    match registry.checkEquivalenceTraced settings.workload with
    | ((.error error, check), places) => (.refused error check.cases, places.map .built)
    | ((.ok _, check), places) =>
      let (attempt, actions) :=
        settings.measureFromTraced check.elapsed { registry with cases := check.cases } limit
          surroundings outside
      (attempt, places.map .built ++ actions)
  else settings.measureFromTraced 0 registry limit surroundings outside

/-- What is handed out when cases have been measured. -/
def deliveries (settings : RunSettings) (timestamp : Timestamp) (result : SuiteResult Float) :
    List ProgramAction :=
  match settings.handout result timestamp with
  | none => []
  | some (text, output) => [.delivered text output]

variable (settings : RunSettings) (registry : Registry) (limit : Nat)
  (surroundings : Surroundings Float ω) (outside : ω)

theorem measureFromTraced_fst (clock : Nat) :
    (settings.measureFromTraced clock registry limit surroundings outside).1 =
      settings.measureFrom clock registry limit surroundings outside := by
  rw [measureFromTraced, measureFrom, ← registry.runTraced_map_fst]
  cases registry.runTraced settings.sampling limit surroundings ⟨clock, false, false, outside⟩ <;>
    rfl

theorem attemptTraced_fst :
    (settings.attemptTraced registry limit surroundings outside).1 =
      settings.attempt registry limit surroundings outside := by
  rw [attemptTraced, attempt, prepare, ← registry.checkEquivalenceTraced_fst settings.workload]
  split
  next =>
    rcases registry.checkEquivalenceTraced settings.workload with ⟨⟨error | count, check⟩, places⟩
    · rfl
    · exact settings.measureFromTraced_fst { registry with cases := check.cases } limit
        surroundings outside check.elapsed
  next => exact settings.measureFromTraced_fst registry limit surroundings outside 0

end RunSettings

/-! ## The whole program -/

/-- Does what there is to be done, and writes it down. -/
def Job.performTraced (job : Job) (place : Place) (limit : Nat) (timestamp : Timestamp) :
    Option (Transcript × List ProgramAction) :=
  match job with
  | .deliver text output =>
    some (({ files := place.files } : Transcript).deliver place.directory text output,
      [.delivered text output])
  | .present text => some ({ files := place.files, console := text }, [])
  | .measure settings registry =>
    let opening := settings.opening registry
    match settings.attemptTraced registry limit (.listening settings.hearing) opening with
    | (.refused error cases, actions) =>
      some ({ files := place.files, console := opening, cases,
              ending := .failed (.equivalence error) }, actions)
    | (.unfinished, _) => none
    | (.finished run, actions) =>
      some (.ofRun settings place timestamp run,
        actions ++ settings.deliveries timestamp run.result)

theorem Job.performTraced_map_fst (job : Job) (place : Place) (limit : Nat)
    (timestamp : Timestamp) :
    (job.performTraced place limit timestamp).map Prod.fst =
      job.perform place limit timestamp := by
  cases job with
  | deliver text output => rfl
  | present text => rfl
  | measure settings registry =>
    rw [performTraced, perform, ← settings.attemptTraced_fst]
    rcases settings.attemptTraced registry limit (.listening settings.hearing)
      (settings.opening registry) with ⟨attempt, actions⟩
    cases attempt <;> rfl

/-- Runs the program with flags that have been read, and writes down what is done. -/
def Flags.runTraced (flags : Flags) (place : Place)
    (register : Workload → Option DuplicateName × Registry) (limit : Nat) (timestamp : Timestamp) :
    Option (Transcript × List ProgramAction) :=
  match Job.ofFlags flags place register with
  | .error error => some ({ files := place.files, ending := .failed error }, [])
  | .ok job => job.performTraced place limit timestamp

/-- Without the trace, the program runs as it does without writing anything down. -/
theorem Flags.runTraced_map_fst (flags : Flags) (place : Place)
    (register : Workload → Option DuplicateName × Registry) (limit : Nat) (timestamp : Timestamp) :
    (flags.runTraced place register limit timestamp).map Prod.fst =
      flags.run place register limit timestamp := by
  rw [runTraced, run]
  cases Job.ofFlags flags place register with
  | error error => rfl
  | ok job => exact job.performTraced_map_fst place limit timestamp

section

variable {flags : Flags} {place : Place} {register : Workload → Option DuplicateName × Registry}
  {limit : Nat} {timestamp : Timestamp} {transcript : Transcript}

/-- A run of the program has a trace. -/
theorem Flags.exists_runTraced_of_run
    (h : flags.run place register limit timestamp = some transcript) :
    ∃ actions, flags.runTraced place register limit timestamp = some (transcript, actions) := by
  rw [← runTraced_map_fst] at h
  obtain ⟨⟨traced, actions⟩, htraced, rfl⟩ := Option.map_eq_some_iff.mp h
  exact ⟨actions, htraced⟩

/-- What is traced is a run of the program. -/
theorem Flags.run_of_runTraced {actions : List ProgramAction}
    (h : flags.runTraced place register limit timestamp = some (transcript, actions)) :
    flags.run place register limit timestamp = some transcript := by
  rw [← runTraced_map_fst, h]
  rfl

end

end PushBench
