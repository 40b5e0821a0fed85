import PushBench.Report.Basic
import PushBench.Suite.Run

/-!
# Console lines

One line per case, and closing lines with a notice of cancellation and the fastest case. The lines
are written all at once from a report, or one after the other while a suite runs.
-/

namespace PushBench

/-! ## Numbers -/

/-- Digits in groups of three, counted from the right, with commas between the groups. -/
def groupThousands : List Char → List Char
  | [] => []
  | c :: rest =>
    if rest ≠ [] ∧ rest.length % 3 = 0 then c :: ',' :: groupThousands rest
    else c :: groupThousands rest

/-- The decimal places of a rate: two below one hundred, and none from there on. -/
def ratePlaces (rate : Float) : Nat := if decide (rate < 100.0) then 2 else 0

/-- A rate as it is displayed, with its whole part in groups of three digits. -/
def rateText (rate : Float) : List Char :=
  let text := Decimal.fixedText (ratePlaces rate) rate
  groupThousands (text.takeWhile (· ≠ '.')) ++ text.dropWhile (· ≠ '.')

/-- A relative margin with two decimal places. One that is unknown is unbounded. -/
def marginText : Option Float → List Char
  | some margin => Decimal.fixedText 2 margin
  | none => ['i', 'n', 'f']

/-! ## Lines -/

namespace ReportEntry

/-- The line of a measured case. A measurement that is missing counts as one without samples. -/
def measuredLine (name : String) (metrics : Option Metrics) : String :=
  let rate := (metrics.map Metrics.rate).getD 0.0
  let margin := metrics.bind Metrics.relativeMargin
  let samples := (metrics.map Metrics.samples).getD 0
  name ++ " x " ++ String.ofList (rateText rate) ++ " ops/sec ±" ++
    String.ofList (marginText margin) ++ s!"% ({samples} runs sampled)"

/-- The line of a failed case. -/
def failedLine (name : String) : Option FailureNote → String
  | some note => name ++ ": FAILED (" ++ note.kind ++ ") " ++ note.message
  | none => name ++ ": FAILED (unknown) "

/-- The line of an entry. -/
def line (entry : ReportEntry) : String :=
  match entry.status with
  | .converged => measuredLine entry.name entry.metrics
  | .lowConfidence => measuredLine entry.name entry.metrics ++ " [low confidence]"
  | .failed => failedLine entry.name entry.failure
  | .skipped => entry.name ++ ": skipped (" ++ entry.skipReason.getD "not run" ++ ")"

end ReportEntry

/-- The closing lines of a suite of which `ran` cases have an outcome. -/
def closingLines (fastest : Option String) (cancelled : Bool) (ran : Nat) : List String :=
  (if cancelled then [s!"Cancelled after {ran} case(s)"] else []) ++
    match fastest with
    | some name => ["Fastest is " ++ name]
    | none => []

/-- Lines with their ends. -/
def joinLines (lines : List String) : String :=
  String.join (lines.map fun line ↦ line ++ "\n")

/-- All lines of a report. -/
def Report.lines (report : Report) : List String :=
  report.entries.map ReportEntry.line ++
    closingLines report.fastest report.cancelled report.entries.length

/-- The text of a report for people. -/
def Report.humanText (report : Report) : String := joinLines report.lines

/-! ## Streaming -/

/-- Where lines go, over a state of type `ω`. A writer says whether it took the line. -/
structure LineWriter (ω : Type) where
  write : String → ω → Bool × ω

namespace LineWriter

variable {ω : Type}

/-- Appends lines to a text. -/
def appending : LineWriter String := ⟨fun line text ↦ (true, text ++ line ++ "\n")⟩

/-- Takes no line. -/
def broken : LineWriter ω := ⟨fun _ state ↦ (false, state)⟩

/-- Writes lines one after the other. A line that is not taken is lost. -/
def writeAll (writer : LineWriter ω) (lines : List String) (state : ω) : ω :=
  lines.foldl (fun state line ↦ (writer.write line state).2) state

end LineWriter

/-- The lines that announce an event of a suite. -/
def SuiteEvent.lines : SuiteEvent Float → List String
  | .started _ => []
  | .finished outcome => [(ReportEntry.ofOutcome outcome).line]
  | .concluded result => closingLines result.fastest result.cancelled result.outcomes.length

/-- A suite announced line by line to a writer. -/
def LineWriter.announce {ω : Type} (writer : LineWriter ω) (event : SuiteEvent Float)
    (state : ω) : ω :=
  writer.writeAll event.lines state

end PushBench
