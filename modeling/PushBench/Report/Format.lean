import PushBench.Report.Console
import PushBench.Report.Json
import PushBench.Text.Lowercase

/-!
# Report formats

A report is written for people or for programs.
-/

namespace PushBench

/-- The formats of reports. -/
inductive OutputFormat where
  | human
  | json
  deriving DecidableEq, Repr

/-- A name that no format has, in lowercase. -/
structure UnknownFormat where
  name : String
  deriving DecidableEq, Repr

/-- The text of the error. -/
def UnknownFormat.message (error : UnknownFormat) : String :=
  "Unknown output format: " ++ error.name

namespace OutputFormat

/-- The name of a format. -/
def text : OutputFormat → String
  | .human => "human"
  | .json => "json"

/-- The format of a name in any letter case. -/
def parse (name : String) : Except UnknownFormat OutputFormat :=
  match String.ofList (lowercase name.toList) with
  | "human" => .ok .human
  | "text" => .ok .human
  | "json" => .ok .json
  | other => .error ⟨other⟩

/-- The format of a tag. -/
def ofTag? : String → Option OutputFormat
  | "human" => some .human
  | "json" => some .json
  | _ => none

/-- A format as JSON. -/
def toJson (format : OutputFormat) : Json := .string format.text

/-- The format that JSON stands for. -/
def ofJson (json : Json) : Option OutputFormat := json.asChoice Json.isNull ofTag?

end OutputFormat

/-- The text of a report in a format. -/
def Report.render (report : Report) : OutputFormat → String
  | .human => report.humanText
  | .json => report.jsonText

end PushBench
