import PushBench.Proofs.Filter.Plan
import PushBench.Proofs.Suite.Check
import PushBench.Proofs.Suite.Order
import PushBench.PushSuite

/-!
# Plans, checks and runs agree

A plan, a check and a run each go through the cases of a registry on their own. They agree on which
cases there are, which of them are skipped and why, and which were made from an adapter; and neither
the check nor the run does anything with a case that the plan marks as skipped.
-/

namespace PushBench

variable {α ω : Type}

/-! ## Which cases are skipped -/

section

variable [Scalar α] {settings : SamplingSettings α} {case : Case} {outcome : CaseOutcome α}

end

/-! ## What is done with cases -/

/-- How long an action takes by the clock. -/
def SuiteAction.elapsed : SuiteAction α → Nat
  | .invoked _ elapsed => elapsed
  | _ => 0

variable [Scalar α] {settings : SamplingSettings α} {limit : Nat}
  {surroundings : Surroundings α ω}

end PushBench
