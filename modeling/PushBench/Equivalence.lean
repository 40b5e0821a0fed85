import PushBench.Registry

/-!
# Equivalence of adapters

Before anything is timed, every case made from an adapter can be asked to build its contents once.
All of them must come to the expected contents of the workload.
-/

namespace PushBench

/-- How a case missed the expected contents. -/
inductive MismatchDetail where
  /-- The contents were different: how many there were, and the first place where they differ from
  the expected ones within both. -/
  | contents (length : Nat) (firstDifference : Option Nat)
  /-- The invocation failed. -/
  | failed (error : CaseError)
  deriving DecidableEq, Repr

/-- A case that missed the expected contents. -/
structure Mismatch where
  case : String
  detail : MismatchDetail
  deriving DecidableEq, Repr

/-- The text of a mismatch. -/
def Mismatch.message (mismatch : Mismatch) : String :=
  mismatch.case ++
    match mismatch.detail with
    | .contents length (some index) =>
      s!": {length} elements, first difference at index {index}"
    | .contents length none => s!": {length} elements"
    | .failed error => ": " ++ error.message

/-- The cases that missed the expected contents of a workload. -/
structure EquivalenceError where
  workload : Workload
  mismatches : List Mismatch
  deriving DecidableEq, Repr

/-- The text of the error. -/
def EquivalenceError.message (error : EquivalenceError) : String :=
  s!"{error.mismatches.length} case(s) produced unexpected contents for " ++
    s!"{error.workload.len} pushes: " ++
    String.intercalate "; " (error.mismatches.map Mismatch.message)

/-- The first index within both lists at which they differ. -/
def firstDifference : List Element → List Element → Option Nat
  | expected :: expecteds, actual :: actuals =>
    if expected ≠ actual then some 0
    else (firstDifference expecteds actuals).map (· + 1)
  | _, _ => none

/-- How an answer misses the expected contents, if it does. -/
def missed (expected : List Element) : Except CaseError (List Element) → Option MismatchDetail
  | .error error => some (.failed error)
  | .ok actual =>
    if actual = expected then none
    else some (.contents actual.length (firstDifference expected actual))

/-- What the check found so far. -/
structure EquivalenceCheck : Type 1 where
  /-- How many cases built their contents. -/
  checked : Nat
  mismatches : List Mismatch
  /-- Nanoseconds that the check charged to the clock. -/
  elapsed : Nat
  /-- The cases in the state that the check left them in. -/
  cases : List Case

/-- Checks cases one after the other. Cases that are to be skipped and cases that were not made from
an adapter are left alone. -/
def checkCases (expected : List Element) : List Case → EquivalenceCheck
  | [] => ⟨0, [], 0, []⟩
  | case :: rest =>
    let after := checkCases expected rest
    match case.skipReason, case.materialize with
    | none, some (reply, case) =>
      { checked := after.checked + 1
        mismatches :=
          match missed expected reply.answer with
          | some detail => ⟨case.name, detail⟩ :: after.mismatches
          | none => after.mismatches
        elapsed := reply.elapsed + after.elapsed
        cases := case :: after.cases }
    | _, _ => { after with cases := case :: after.cases }

/-- The answer of a check: how many cases were checked, or those that missed the contents. -/
def EquivalenceCheck.answer (check : EquivalenceCheck) (workload : Workload) :
    Except EquivalenceError Nat :=
  if check.mismatches.isEmpty then .ok check.checked else .error ⟨workload, check.mismatches⟩

/-- Checks all cases of a registry against the expected contents of a workload. -/
def Registry.checkEquivalence (registry : Registry) (workload : Workload) :
    Except EquivalenceError Nat × EquivalenceCheck :=
  let check := checkCases workload.expected registry.cases
  (check.answer workload, check)

end PushBench
