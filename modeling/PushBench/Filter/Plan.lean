import PushBench.Filter.Reader
import PushBench.Registry
import PushBench.Text.Quoted

/-!
# Plans

A filter selects the cases whose names it matches, in their order. A plan lists the cases that are
left without running them.
-/

namespace PushBench

/-- A text that is no pattern. -/
structure InvalidFilter where
  text : String
  deriving DecidableEq, Repr

namespace InvalidFilter

/-- The text of the error. -/
def message (error : InvalidFilter) : String :=
  "invalid case filter " ++ String.ofList (Quoted.encode error.text.toList)

/-- What is wrong with a text that is no pattern. -/
def cause : String := "not a regular expression"

end InvalidFilter

/-- The pattern of a filter. -/
def filterOf (text : String) : Except InvalidFilter Pattern :=
  match Pattern.read text.toList with
  | some pattern => .ok pattern
  | none => .error ⟨text⟩

/-- Whether a filter selects a case. -/
def Pattern.selects (pattern : Pattern) (case : Case) : Bool :=
  pattern.matchesIn case.name.toList

/-- The cases that a filter selects. Without a filter these are all. -/
def Registry.filtered (registry : Registry) : Option Pattern → Registry
  | some pattern => registry.select pattern.selects
  | none => registry

namespace Case

/-- Who gives versions back in a case, as plans show it. -/
def kindText (case : Case) : String :=
  match case.kind with
  | some kind => kind.text
  | none => "custom"

/-- Why a case is not going to be run, as plans show it. -/
def skipText (case : Case) : String :=
  match case.skipReason with
  | some reason => " (skipped: " ++ reason ++ ")"
  | none => ""

/-- The line of a case in a plan. -/
def planLine (case : Case) : String :=
  "├── " ++ case.name ++ " [" ++ case.kindText ++ "]" ++ case.skipText

end Case

/-- The lines of a plan. -/
def Registry.planLines (registry : Registry) (workload : Workload) : List String :=
  s!"pvbench plan ({workload.len} pushes per invocation):" ::
    (registry.cases.map Case.planLine ++ [s!"{registry.size} cases found."])

/-- The plan of a registry. -/
def Registry.planText (registry : Registry) (workload : Workload) : String :=
  String.join ((registry.planLines workload).map fun line ↦ line ++ "\n")

end PushBench
