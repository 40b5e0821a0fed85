import PushBench.Proofs.Suite.Check
import Mathlib.Data.List.Forall2

/-!
# What the check finds

The check finds every case that missed the expected contents and no other one, whatever the cases
before it came to. What it says of a case that missed them is the error of the case, or where its
contents first differ from the expected ones.
-/

namespace PushBench

/-! ## The first difference -/

/-- Two lists differ at an index within both. -/
def DifferAt (expected actual : List Element) (index : Nat) : Prop :=
  ∃ element element', expected[index]? = some element ∧ actual[index]? = some element' ∧
    element ≠ element'

section DifferAt

variable {first first' : Element} {expected actual : List Element} {index : Nat}

@[simp]
theorem differAt_cons_zero :
    DifferAt (first :: expected) (first' :: actual) 0 ↔ first ≠ first' := by
  simp [DifferAt]

@[simp]
theorem differAt_cons_succ :
    DifferAt (first :: expected) (first' :: actual) (index + 1) ↔ DifferAt expected actual index :=
  Iff.rfl

end DifferAt

/-- What a mismatch tells of the answer it is about: the error, or how long the contents were and
where they first differ from the expected ones. They need not differ anywhere within both if one
list goes on where the other ends. -/
inductive MismatchDetail.Tells (expected : List Element) :
    Except CaseError (List Element) → MismatchDetail → Prop where
  | failed (error : CaseError) : Tells expected (.error error) (.failed error)
  | contents {actual : List Element} {firstDifference : Option Nat} (hactual : actual ≠ expected)
    (hsome : ∀ index, firstDifference = some index ↔
      DifferAt expected actual index ∧ ∀ earlier < index, ¬DifferAt expected actual earlier)
    (hnone : firstDifference = none ↔ actual <+: expected ∨ expected <+: actual) :
    Tells expected (.ok actual) (.contents actual.length firstDifference)

variable {expected : List Element}

namespace Case

/-- What a case answers if its contents are built, for a case made from an adapter. -/
def buildAnswer? (case : Case) : Option (Except CaseError (List Element)) :=
  case.materialize.map fun built ↦ built.1.answer

end Case

/-- The mismatch of a case that missed the expected contents. -/
structure Mismatch.Reports (expected : List Element) (case : Case) (mismatch : Mismatch) :
    Prop where
  case_eq : mismatch.case = case.name
  detail : ∃ answer, case.buildAnswer? = some answer ∧ mismatch.detail.Tells expected answer

/-! ## All cases -/

/-- The cases that are checked. -/
def checkedCases (cases : List Case) : List Case := cases.filter fun case ↦ case.IsChecked

/-- The cases that are checked and miss the expected contents. -/
def missing (expected : List Element) (cases : List Case) : List Case :=
  (checkedCases cases).filter fun case ↦ case.buildAnswer? ≠ some (.ok expected)

end PushBench
