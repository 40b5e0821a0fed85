import PushBench.Case
import Std.Data.HashSet

/-!
# Registries

Cases with distinct names in the order in which they were registered, which is the order in which
they run and are reported.
-/

namespace PushBench

/-- The cases and their names. -/
structure Registry : Type 1 where
  cases : List Case
  names : Std.HashSet String

/-- A name that is taken. -/
structure DuplicateName where
  name : String
  deriving DecidableEq, Repr

/-- The text of the error. -/
def DuplicateName.message (error : DuplicateName) : String :=
  "duplicate case name: " ++ error.name

namespace Registry

/-- No cases. -/
def empty : Registry := ⟨[], ∅⟩

/-- Registers a case at the end, unless its name is taken. -/
def add (registry : Registry) (case : Case) : Except DuplicateName Registry :=
  if registry.names.contains case.name then .error ⟨case.name⟩
  else .ok ⟨registry.cases ++ [case], registry.names.insert case.name⟩

/-- Registers a case that runs a workload on an adapter, under the adapter's name. A taken name is
refused before the case is made. -/
def addAdapter {σ η : Type} (registry : Registry) (adapter : Adapter σ η) (state : σ)
    (workload : Workload) : Except DuplicateName Registry :=
  if registry.names.contains adapter.name then .error ⟨adapter.name⟩
  else registry.add (.ofAdapter adapter state workload)

/-- The case of a name. -/
def get? (registry : Registry) (name : String) : Option Case :=
  registry.cases.find? (·.name == name)

/-- How many cases there are. -/
def size (registry : Registry) : Nat := registry.cases.length

/-- Whether there are no cases. -/
def isEmpty (registry : Registry) : Bool := registry.cases.isEmpty

/-- The cases that are accepted, in their order. The names of the others are free again. -/
def select (registry : Registry) (accepts : Case → Bool) : Registry :=
  let cases := registry.cases.filter accepts
  ⟨cases, .ofList (cases.map Case.name)⟩

/-- Replaces the case of a name. -/
def update (registry : Registry) (case : Case) : Registry :=
  { registry with cases := registry.cases.map fun other ↦
      if other.name == case.name then case else other }

end Registry

end PushBench
