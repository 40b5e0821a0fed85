import PushBench.CommandLine.Job
import PushBench.CommandLine.Reader

/-!
# Transcripts

What a run of the program leaves behind: the texts on its two streams, the files, and what its cases
came to. A report is complete before the run ends, whether or not cases failed.
-/

namespace PushBench

/-! ## Measuring -/

/-- What came of measuring the cases of a registry. -/
inductive SuiteAttempt (ω : Type) : Type 1 where
  /-- The cases did not agree; they are left as the check left them. -/
  | refused (error : EquivalenceError) (cases : List Case)
  /-- A case would have needed more samples than were allowed. -/
  | unfinished
  | finished (run : SuiteRun Float ω)

/-- Whoever only listens to a suite, which is interrupted when a signal is raised. -/
def Surroundings.listening {ω : Type} (hear : SuiteEvent Float → ω → ω) :
    Surroundings Float ω where
  notify event state := (false, hear event state)
  poll signalled state := (signalled, state)

namespace RunSettings

variable {ω : Type}

/-- Measures the cases of a registry from a time on. -/
def measureFrom (settings : RunSettings) (clock : Nat) (registry : Registry) (limit : Nat)
    (surroundings : Surroundings Float ω) (outside : ω) : SuiteAttempt ω :=
  match registry.run settings.sampling limit surroundings ⟨clock, false, false, outside⟩ with
  | some run => .finished run
  | none => .unfinished

/-- The cases that are to be measured, and the time by then: all cases of a registry, or what a
check of their contents leaves of them, if that is asked for. The check refuses cases that do not
agree. -/
def prepare (settings : RunSettings) (registry : Registry) :
    Except (EquivalenceError × List Case) (Nat × Registry) :=
  if settings.verify then
    match registry.checkEquivalence settings.workload with
    | (.error error, check) => .error (error, check.cases)
    | (.ok _, check) => .ok (check.elapsed, { registry with cases := check.cases })
  else .ok (0, registry)

/-- Measures the cases of a registry, after their contents have been checked if that is asked
for. -/
def attempt (settings : RunSettings) (registry : Registry) (limit : Nat)
    (surroundings : Surroundings Float ω) (outside : ω) : SuiteAttempt ω :=
  match settings.prepare registry with
  | .error (error, cases) => .refused error cases
  | .ok (clock, prepared) => settings.measureFrom clock prepared limit surroundings outside

/-- The text that announces a run. -/
def opening (settings : RunSettings) (registry : Registry) : String :=
  match settings.format with
  | .human =>
    s!"Running {registry.size} cases ({settings.workload.len} pushes per invocation)...\n\n"
  | .json => ""

/-- What is heard of a suite on the console. -/
def hearing (settings : RunSettings) (event : SuiteEvent Float) (text : String) : String :=
  match settings.format with
  | .human => LineWriter.appending.announce event text
  | .json => text

/-- The report of a result. -/
def reportOf (settings : RunSettings) (result : SuiteResult Float) (timestamp : Timestamp) :
    Report :=
  .ofResult result (.ofSampling settings.workload.len settings.sampling) timestamp

/-- The text that is to be handed out when cases have been measured, and the output file if there is
one. Lines for people are on the console already. -/
def handout (settings : RunSettings) (result : SuiteResult Float) (timestamp : Timestamp) :
    Option (String × Option String) :=
  match settings.format, settings.output with
  | .human, none => none
  | format, output => some ((settings.reportOf result timestamp).render format, output)

end RunSettings

/-! ## Transcripts -/

/-- How a run ends. -/
inductive Ending where
  | succeeded
  /-- All was done, but cases failed. -/
  | casesFailed (count : Nat)
  | failed (error : RunError)

namespace Ending

/-- The exit code of the program. -/
def exitCode : Ending → Nat
  | .succeeded => 0
  | .casesFailed _ => 1
  | .failed _ => 1

/-- The last words on the error stream. -/
def notice : Ending → String
  | .succeeded => ""
  | .casesFailed count => s!"\n{count} case(s) failed\n"
  | .failed error => error.report ++ "\n"

/-- How a run ends whose cases came to a result. One that has failed already stays failed. -/
def withResult (ending : Ending) (result : SuiteResult Float) : Ending :=
  match ending with
  | .succeeded => if result.hasFailures then .casesFailed result.failureCount else .succeeded
  | ended => ended

end Ending

/-- What a run leaves behind. -/
structure Transcript : Type 1 where
  /-- The text on the console. -/
  console : String := ""
  /-- The text on the error stream before the last words. -/
  notices : String := ""
  files : FileTree
  /-- What the cases came to, if they were measured. -/
  result : Option (SuiteResult Float) := none
  /-- The cases, in the state they were left in. -/
  cases : List Case := []
  ending : Ending := .succeeded

namespace Transcript

/-- Hands out a text: to the output file, or to the console if there is none. -/
def deliver (transcript : Transcript) (directory : Path) (text : String) :
    Option String → Transcript
  | none => { transcript with console := transcript.console ++ text }
  | some shown =>
    match transcript.files.write (.ofText directory shown) text with
    | .ok files =>
      { transcript with
        files, notices := transcript.notices ++ "Report written to: " ++ shown ++ "\n" }
    | .error reason => { transcript with ending := .failed (.output shown reason) }

/-- Ends a run whose cases came to a result. -/
def closeWith (transcript : Transcript) (result : SuiteResult Float) : Transcript :=
  { transcript with ending := transcript.ending.withResult result }

/-- The transcript of cases that have been measured. Lines for people are on the console already. -/
def ofRun (settings : RunSettings) (place : Place) (timestamp : Timestamp)
    (run : SuiteRun Float String) : Transcript :=
  let transcript : Transcript :=
    { console := run.state.outside, files := place.files, result := some run.result,
      cases := run.cases }
  let delivered :=
    match settings.handout run.result timestamp with
    | none => transcript
    | some (text, output) => transcript.deliver place.directory text output
  delivered.closeWith run.result

/-- All that goes to the error stream. -/
def errorText (transcript : Transcript) : String := transcript.notices ++ transcript.ending.notice

end Transcript

/-- Does what there is to be done. There is no transcript if a case would need more than `limit`
samples. -/
def Job.perform (job : Job) (place : Place) (limit : Nat) (timestamp : Timestamp) :
    Option Transcript :=
  match job with
  | .deliver text output =>
    some (({ files := place.files } : Transcript).deliver place.directory text output)
  | .present text => some { files := place.files, console := text }
  | .measure settings registry =>
    let opening := settings.opening registry
    match settings.attempt registry limit (.listening settings.hearing) opening with
    | .refused error cases =>
      some { files := place.files, console := opening, cases,
             ending := .failed (.equivalence error) }
    | .unfinished => none
    | .finished run => some (.ofRun settings place timestamp run)

/-- Runs the program with flags that have been read. -/
def Flags.run (flags : Flags) (place : Place)
    (register : Workload → Option DuplicateName × Registry) (limit : Nat) (timestamp : Timestamp) :
    Option Transcript :=
  match Job.ofFlags flags place register with
  | .error error => some { files := place.files, ending := .failed error }
  | .ok job => job.perform place limit timestamp

end PushBench
