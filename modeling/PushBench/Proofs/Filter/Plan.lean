import PushBench.Filter.Plan
import PushBench.Suite.Outcome

/-!
# Entries of plans

A plan has one line for every case. For a given name, the line tells the kind of the case, and
whether and why the case is to be skipped.
-/

namespace PushBench

end PushBench
