import PushBench.CommandLine.Transcript
import PushBench.CommandLine.Usage
import PushBench.PushSuite
import Std.Time.DateTime.Timestamp

/-!
# The program

The outer layer: arguments, files, streams and the clocks of the machine. What there is to be done,
when sampling is over, and all texts are decided by the library.
-/

namespace PushBench.Program

/-- Now, by the calendar. -/
def timestampNow : IO Timestamp := do
  return .ofNanoseconds (← Std.Time.Timestamp.now).toNanosecondsSinceUnixEpoch.val

/-! ## Files -/

/-- Adds a file or a directory of the machine to a tree, if it is there. -/
def look (tree : FileTree) (path : Path) : IO FileTree := do
  try
    let real ← IO.FS.realPath path.text
    if ← real.isDir then return tree.makeDirectories path
    else return tree.plant path (← IO.FS.readBinFile real)
  catch _ => return tree

/-- The working directory, and the files that a configuration can be in. -/
def placeFor (flags : Flags) : IO Place := do
  let directory := Path.collapse (Path.ofText [] (← IO.currentDir).toString)
  let files ← (flags.configPaths directory).foldlM look (FileTree.empty.makeDirectories directory)
  return ⟨files, directory⟩

/-- The number that the system gives to a path through something that is no directory. -/
def notDirectoryCode : UInt32 := 20

/-- What kept a file from being written. -/
def reasonFor : IO.Error → FileError
  | .inappropriateType _ code _ =>
    if code = notDirectoryCode then .notDirectory else .isDirectory
  | .permissionDenied .. => .denied
  | _ => .notFound

/-- Hands out a text: to the output file, or to the console if there is none. -/
def deliver (text : String) : Option String → IO Ending
  | none => do
    IO.print text
    return .succeeded
  | some shown => do
    try
      IO.FS.writeFile shown text
      IO.eprintln ("Report written to: " ++ shown)
      return .succeeded
    catch error => return .failed (.output shown (reasonFor error))

/-! ## Measuring -/

/-- Invokes a body `count` times, or until it fails. -/
def invokeTimes {σ : Type} (invoke : σ → Reply Unit σ) : Nat → σ → IO (Except CaseError Unit × σ)
  | 0, state => return (.ok (), state)
  | count + 1, state => do
    let reply ← IO.lazyPure fun _ ↦ invoke state
    match reply.answer with
    | .ok () => invokeTimes invoke count reply.state
    | .error error => return (.error error, reply.state)

/-- Takes samples by the clock of the machine until sampling is over or the body fails. -/
partial def sampleUntilOver {σ : Type} (invoke : σ → Reply Unit σ) (sampler : Sampler Float)
    (state : σ) : IO (Except CaseError (Measurement Float)) := do
  let started ← IO.monoNanosNow
  let (answer, state) ← invokeTimes invoke sampler.batch state
  let stopped ← IO.monoNanosNow
  match answer with
  | .error error => return .error error
  | .ok () =>
    let sample := Sample.ofBatch (stopped - started) sampler.batch
    let sampler := (sampler.startingAt started).record sample
    let now ← IO.monoNanosNow
    match sampler.convergence now with
    | some convergence => return .ok (sampler.finish convergence now)
    | none => sampleUntilOver invoke sampler state

/-- Measures a case by the clock of the machine, or skips it. -/
def measure (settings : SamplingSettings Float) (case : Case) : IO (CaseOutcome Float) := do
  match case.skipReason with
  | some reason => return ⟨case.name, .skipped reason⟩
  | none =>
    let started ← IO.monoNanosNow
    let (answer, state) ← invokeTimes case.invoke 1 case.state
    let stopped ← IO.monoNanosNow
    match answer with
    | .error error => return ⟨case.name, error.toStatus⟩
    | .ok () =>
      let sampler := (Sampler.start settings).sizedBy (Float.ofNat (stopped - started))
      return ⟨case.name, .ofSampling (← sampleUntilOver case.invoke sampler state)⟩

/-- Announces an event on the console. -/
def announce (settings : RunSettings) (event : SuiteEvent Float) : IO Unit :=
  IO.print (settings.hearing event "")

/-- Measures a case and announces what it came to. -/
def finish (settings : RunSettings) (case : Case) : IO (CaseOutcome Float) := do
  let outcome ← measure settings.sampling case
  announce settings (.finished outcome)
  return outcome

/-! ## Jobs -/

/-- Does what there is to be done. -/
def perform : Job → IO Ending
  | .deliver text output => deliver text output
  | .present text => deliver text none
  | .measure settings registry => do
    IO.print (settings.opening registry)
    match settings.prepare registry with
    | .error (error, _) => return .failed (.equivalence error)
    | .ok (_, prepared) =>
      let outcomes ← prepared.cases.mapM (finish settings)
      let result := SuiteResult.ofOutcomes outcomes false
      announce settings (.concluded result)
      let ending ←
        match settings.handout result (← timestampNow) with
        | some (text, output) => deliver text output
        | none => pure .succeeded
      return ending.withResult result

/-- Ends the program. -/
def close (ending : Ending) : IO UInt32 := do
  IO.eprint ending.notice
  return ending.exitCode.toUInt32

/-- Runs the program on its arguments. -/
def run (arguments : List String) : IO UInt32 := do
  match Flags.read arguments with
  | .error interruption =>
    IO.print interruption.consoleText
    IO.eprint interruption.errorText
    return interruption.exitCode.toUInt32
  | .ok flags =>
    let place ← placeFor flags
    match Job.ofFlags flags place (PushSuite.register .empty) with
    | .error error => close (.failed error)
    | .ok job => close (← perform job)

end PushBench.Program

/-- The program. -/
def main (arguments : List String) : IO UInt32 := PushBench.Program.run arguments
