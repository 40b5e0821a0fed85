import PushBench.Proofs.Adapter.Simulation

/-!
# Recorded calls

A recording adapter numbers the handles it issues 0, 1, 2, ... and writes down every call with its
answer. Nobody who drives it can tell it from the adapter it records.
-/

namespace PushBench

/-- The error of an answer. -/
def AdapterError.of? {β : Type} : Except AdapterError β → Option AdapterError
  | .ok _ => none
  | .error error => some error

theorem AdapterError.eq_of_of? {β : Type} {answer : Except AdapterError β} {error : AdapterError}
    (h : of? answer = some error) : answer = .error error := by
  cases answer with
  | ok _ => cases h
  | error other => rw [Option.some.inj h]

/-- A call of an adapter operation and its answer. Handles are named by their numbers. -/
inductive AdapterCall where
  | empty (issued : Nat)
  | push (handle : Nat) (element : Element) (answer : Except AdapterError Nat)
  | release (handle : Nat) (answer : Except AdapterError Unit)
  | read (handle : Nat) (answer : Except AdapterError (List Element))

namespace AdapterCall

/-- The handle that a call issued. -/
def issued? : AdapterCall → Option Nat
  | .empty issued => some issued
  | .push _ _ answer => answer.toOption
  | .release _ _ => none
  | .read _ _ => none

/-- The handle that a call passed to release, whatever release answered. -/
def released? : AdapterCall → Option Nat
  | .release handle _ => some handle
  | _ => none

/-- The handle that a call acts on. -/
def target? : AdapterCall → Option Nat
  | .empty _ => none
  | .push handle _ _ => some handle
  | .release handle _ => some handle
  | .read handle _ => some handle

/-- The error that a call answered. -/
def error? : AdapterCall → Option AdapterError
  | .empty _ => none
  | .push _ _ answer => AdapterError.of? answer
  | .release _ answer => AdapterError.of? answer
  | .read _ answer => AdapterError.of? answer

/-- The handles that calls issued, in order. -/
def issued (calls : List AdapterCall) : List Nat := calls.filterMap issued?

/-- The handles that calls passed to release, in order. -/
def released (calls : List AdapterCall) : List Nat := calls.filterMap released?

/-- The handles that were issued and not passed to release. -/
def held (calls : List AdapterCall) : List Nat :=
  (issued calls).filter fun handle ↦ handle ∉ released calls

theorem target?_of_released? {call : AdapterCall} {handle : Nat}
    (h : call.released? = some handle) : call.target? = some handle := by
  cases call <;> first | exact h | cases h

theorem issued?_of_released? {call : AdapterCall} {handle : Nat}
    (h : call.released? = some handle) : call.issued? = none := by
  cases call <;> first | rfl | cases h

theorem issued_concat (calls : List AdapterCall) (call : AdapterCall) :
    issued (calls ++ [call]) = issued calls ++ call.issued?.toList := by
  cases hissued : call.issued? <;> simp [issued, hissued]

theorem released_concat (calls : List AdapterCall) (call : AdapterCall) :
    released (calls ++ [call]) = released calls ++ call.released?.toList := by
  cases hreleased : call.released? <;> simp [released, hreleased]

theorem released_concat_of_none (calls : List AdapterCall) {call : AdapterCall}
    (h : call.released? = none) : released (calls ++ [call]) = released calls := by
  simp [released_concat, h]

end AdapterCall

/-- An adapter's state and the calls that led to it. -/
structure Recorded (σ : Type) where
  state : σ
  calls : List AdapterCall := []

namespace Recorded

variable {σ η : Type}

/-- The number of the next handle. -/
def next (recorded : Recorded σ) : Nat := (AdapterCall.issued recorded.calls).length

/-- Writes down a call that led to a state. -/
def record (recorded : Recorded σ) (call : AdapterCall) (state : σ) : Recorded σ :=
  ⟨state, recorded.calls ++ [call]⟩

end Recorded

/-- An adapter with numbered handles that writes down every call. -/
def Adapter.recording {σ η : Type} (adapter : Adapter σ η) : Adapter (Recorded σ) (Nat × η) where
  name := adapter.name
  kind := adapter.kind
  maxLen := adapter.maxLen
  empty recorded :=
    let (handle, state) := adapter.empty recorded.state
    ((recorded.next, handle), recorded.record (.empty recorded.next) state)
  push handle element recorded :=
    let (answer, state) := adapter.push handle.2 element recorded.state
    (answer.map (recorded.next, ·),
      recorded.record (.push handle.1 element (answer.map fun _ ↦ recorded.next)) state)
  release handle recorded :=
    let (answer, state) := adapter.release handle.2 recorded.state
    (answer, recorded.record (.release handle.1 answer) state)
  read handle recorded :=
    let (answer, state) := adapter.read handle.2 recorded.state
    (answer, recorded.record (.read handle.1 answer) state)
  outstanding recorded := adapter.outstanding recorded.state
  charged recorded := adapter.charged recorded.state

/-- Recording changes nothing but the handles. -/
def Adapter.recordingSimulation {σ η : Type} (adapter : Adapter σ η) :
    Simulation adapter.recording adapter where
  states recorded state := recorded.state = state
  handles _ _ handle handle' := handle.2 = handle'
  kind_eq := rfl
  empty {recorded state} hstate := by
    subst hstate
    exact ⟨⟨rfl, fun _ _ hhandle ↦ hhandle⟩, rfl⟩
  push {recorded state handle handle'} hstate hhandle element := by
    subst hstate hhandle
    refine ⟨⟨rfl, fun _ _ hhandle ↦ hhandle⟩, ?_⟩
    simp only [Adapter.recording]
    cases (adapter.push handle.2 element recorded.state).1 with
    | error error => exact .error error
    | ok newer => exact .ok rfl
  release {recorded state handle handle'} hstate hhandle := by
    subst hstate hhandle
    exact ⟨⟨rfl, fun _ _ hhandle ↦ hhandle⟩, .of_eq rfl⟩
  read {recorded state handle handle'} hstate hhandle := by
    subst hstate hhandle
    exact ⟨⟨rfl, fun _ _ hhandle ↦ hhandle⟩, .of_eq rfl⟩

namespace Recorded

variable {σ η : Type} {adapter : Adapter σ η} {handle newer : Nat × η} {element : Element}
  {recorded after : Recorded σ} {error : AdapterError}

theorem push_ok
    (h : adapter.recording.push handle element recorded = (.ok newer, after)) :
    newer.1 = recorded.next ∧
      after.calls = recorded.calls ++ [.push handle.1 element (.ok recorded.next)] := by
  simp only [Adapter.recording, Prod.mk.injEq] at h
  obtain ⟨hanswer, rfl⟩ := h
  cases hinner : (adapter.push handle.2 element recorded.state).1 with
  | error error => simp [hinner, Except.map] at hanswer
  | ok version =>
    simp only [hinner, Except.map, Except.ok.injEq] at hanswer
    subst hanswer
    exact ⟨rfl, rfl⟩

theorem push_error
    (h : adapter.recording.push handle element recorded = (.error error, after)) :
    after.calls = recorded.calls ++ [.push handle.1 element (.error error)] := by
  simp only [Adapter.recording, Prod.mk.injEq] at h
  obtain ⟨hanswer, rfl⟩ := h
  cases hinner : (adapter.push handle.2 element recorded.state).1 with
  | error error =>
    simp only [hinner, Except.map, Except.error.injEq] at hanswer
    subst hanswer
    rfl
  | ok version => simp [hinner, Except.map] at hanswer

theorem read_eq {contents : Except AdapterError (List Element)}
    (h : adapter.recording.read handle recorded = (contents, after)) :
    after.calls = recorded.calls ++ [.read handle.1 contents] := by
  cases h
  rfl

/-- Giving a version back is no call where versions are collected. -/
theorem retire_cases {answer : Except AdapterError Unit}
    (h : adapter.recording.retire handle recorded = (answer, after)) :
    answer = .ok () ∧ after.calls = recorded.calls ∨
      after.calls = recorded.calls ++ [.release handle.1 answer] := by
  unfold Adapter.retire at h
  split at h
  · cases h
    exact .inr rfl
  · cases h
    exact .inl ⟨rfl, rfl⟩

theorem run_eq (workload : Workload) (adapter : Adapter σ η) (recorded : Recorded σ) :
    let recording := workload.run adapter.recording recorded
    (recording.1, recording.2.state) = workload.run adapter recorded.state := by
  have hstate : adapter.recordingSimulation.states recorded recorded.state := rfl
  have hrun := adapter.recordingSimulation.run workload hstate
  exact Prod.ext hrun.answers.eq hrun.keeps.states

theorem materialize_eq (workload : Workload) (adapter : Adapter σ η) (recorded : Recorded σ) :
    let recording := workload.materialize adapter.recording recorded
    (recording.1, recording.2.state) = workload.materialize adapter recorded.state := by
  have hstate : adapter.recordingSimulation.states recorded recorded.state := rfl
  have hmaterialize := adapter.recordingSimulation.materialize workload hstate
  exact Prod.ext hmaterialize.answers.eq hmaterialize.keeps.states

end Recorded

end PushBench
