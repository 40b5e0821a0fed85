import PushBench.Registry
import PushBench.Adapter.Sequence
import PushBench.Adapter.CopyArray
import PushBench.Adapter.Released

/-!
# The push suite

The cases that are compared unless others are registered: three persistent vectors, the copied
array, and two of the vectors behind handles that have to be given back.
-/

namespace PushBench.PushSuite

/-- The cases of the suite, in order. -/
def cases (workload : Workload) : List Case :=
  let vector := Adapter.persistent "rpds.Vector"
  let synchronized := Adapter.persistent "rpds.VectorSync"
  let immutable := Adapter.persistent "im.Vector"
  [.ofAdapter vector 0 workload,
    .ofAdapter synchronized 0 workload,
    .ofAdapter immutable 0 workload,
    .ofAdapter (.copyArray Adapter.copyArrayLimit) () workload,
    .ofAdapter (.released vector) (.ofInner 0) workload,
    .ofAdapter (.released immutable) (.ofInner 0) workload]

/-- Registers cases one after the other up to the first whose name is taken. What was registered
before it stays. -/
def addAll : Registry → List Case → Option DuplicateName × Registry
  | registry, [] => (none, registry)
  | registry, case :: rest =>
    match registry.add case with
    | .error error => (some error, registry)
    | .ok registry => addAll registry rest

/-- Registers the suite, up to the first case whose name is taken. -/
def register (registry : Registry) (workload : Workload) : Option DuplicateName × Registry :=
  addAll registry (cases workload)

end PushBench.PushSuite
