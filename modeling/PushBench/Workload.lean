import PushBench.Adapter.Basic

/-!
# The append workload

One invocation starts from the empty version and pushes `0, 1, ..., len - 1`, keeping only the
newest version. Where versions have to be given back, every version is given back right after its
successor exists, and the last one before the invocation ends. After a failure the versions still
held are given back and the first error stands.
-/

namespace PushBench

/-- How many elements one invocation pushes. -/
structure Workload where
  len : Nat
  deriving DecidableEq, Repr

namespace Adapter

variable {σ η : Type}

/-- Gives a version back where that is needed. -/
def retire (adapter : Adapter σ η) (handle : η) (state : σ) : Except AdapterError Unit × σ :=
  if adapter.kind.needsRelease then adapter.release handle state else (.ok (), state)

/-- Gives a version back after a failure, whose error stands whatever happens here. -/
def abandon (adapter : Adapter σ η) (handle : η) (state : σ) : σ :=
  (adapter.retire handle state).2

/-- Pushes `count` elements from `next` on, starting from the version `current`, and yields the last
version. -/
def pushFrom (adapter : Adapter σ η) (current : η) (next : Element) :
    Nat → σ → Except AdapterError η × σ
  | 0, state => (.ok current, state)
  | count + 1, state =>
    match adapter.push current next state with
    | (.error error, state) => (.error error, adapter.abandon current state)
    | (.ok newer, state) =>
      match adapter.retire current state with
      | (.error error, state) => (.error error, adapter.abandon newer state)
      | (.ok (), state) => adapter.pushFrom newer (next + 1) count state

end Adapter

namespace Workload

variable {σ η : Type}

/-- The workload that is run unless another is asked for. -/
def standard : Workload := ⟨1000⟩

/-- The contents that every adapter must end up with. -/
def expected (workload : Workload) : List Element := List.range workload.len

/-- Whether an adapter's limit admits the workload. -/
def fits (workload : Workload) (adapter : Adapter σ η) : Bool :=
  match adapter.maxLen with
  | some limit => decide (workload.len ≤ limit)
  | none => true

/-- Pushes all elements and yields the last version. -/
def build (workload : Workload) (adapter : Adapter σ η) (state : σ) :
    Except AdapterError η × σ :=
  let (first, state) := adapter.empty state
  adapter.pushFrom first 0 workload.len state

/-- One invocation. -/
def run (workload : Workload) (adapter : Adapter σ η) (state : σ) :
    Except AdapterError Unit × σ :=
  match workload.build adapter state with
  | (.error error, state) => (.error error, state)
  | (.ok last, state) => adapter.retire last state

/-- One invocation that also reads the last version. The version is given back even if reading it
fails, and then the reading error stands. -/
def materialize (workload : Workload) (adapter : Adapter σ η) (state : σ) :
    Except AdapterError (List Element) × σ :=
  match workload.build adapter state with
  | (.error error, state) => (.error error, state)
  | (.ok last, state) =>
    let (contents, state) := adapter.read last state
    match contents, adapter.retire last state with
    | .error error, (_, state) => (.error error, state)
    | .ok _, (.error error, state) => (.error error, state)
    | .ok elements, (.ok (), state) => (.ok elements, state)

end Workload

end PushBench
