import PushBench.Adapter.Faulty
import PushBench.Proofs.Adapter.Trace

/-!
# The first error of an invocation

The error of an invocation is the first one that the adapter answered, whatever is answered while
the versions still held are given back. Before it, the elements are pushed in their order, each onto
the version that the push before it returned. Reading the last version adds one more call that may
fail, and nothing else.
-/

namespace PushBench

variable {σ η β : Type}

namespace AdapterCall

/-- The first error that calls answered. -/
def firstError (calls : List AdapterCall) : Option AdapterError := calls.findSome? error?

/-- The element that a call pushed, whatever push answered. -/
def pushed? : AdapterCall → Option Element
  | .push _ element _ => some element
  | _ => none

/-- The elements that calls pushed, in order. -/
def pushed (calls : List AdapterCall) : List Element := calls.filterMap pushed?

theorem firstError_concat (calls : List AdapterCall) (call : AdapterCall) :
    firstError (calls ++ [call]) = (firstError calls).or call.error? := by
  cases herror : call.error? <;> simp [firstError, herror]

theorem pushed_concat (calls : List AdapterCall) (call : AdapterCall) :
    pushed (calls ++ [call]) = pushed calls ++ call.pushed?.toList := by
  cases hpushed : call.pushed? <;> simp [pushed, hpushed]

end AdapterCall

open AdapterCall

/-! ## Calls in order -/

/-- Elements are pushed in their order as long as no call fails, each onto the handle issued last:
the one that the push before it returned, and that of the empty version before the first push. -/
structure AppendsInOrder (calls : List AdapterCall) : Prop where
  pushed_eq : pushed calls = List.range (pushed calls).length
  push {before : List AdapterCall} {handle : Nat} {element : Element}
    {answer : Except AdapterError Nat} : before ++ [.push handle element answer] <+: calls →
      firstError before = none ∧ (issued before).getLast? = some handle

namespace AppendsInOrder

variable {calls : List AdapterCall} {call : AdapterCall}

theorem nil : AppendsInOrder [] where
  pushed_eq := rfl
  push hprefix := by simp at hprefix

/-- One more call that is no push. -/
theorem concat (h : AppendsInOrder calls) (hcall : call.pushed? = none) :
    AppendsInOrder (calls ++ [call]) where
  pushed_eq := by
    rw [pushed_concat, hcall]
    simpa using h.pushed_eq
  push {before handle element answer} hprefix := by
    rcases List.prefix_concat_iff.mp hprefix with heq | hbefore
    · obtain ⟨-, hlast⟩ := List.append_inj' heq rfl
      cases hlast
      cases hcall
    · exact h.push hbefore

/-- One more push, of the next element onto the last handle. -/
theorem concat_push (h : AppendsInOrder calls) (hopen : firstError calls = none) {handle : Nat}
    (hlast : (issued calls).getLast? = some handle) (answer : Except AdapterError Nat) :
    AppendsInOrder (calls ++ [.push handle (pushed calls).length answer]) where
  pushed_eq := by
    have hpushed : pushed (calls ++ [.push handle (pushed calls).length answer]) =
        pushed calls ++ [(pushed calls).length] := pushed_concat _ _
    rw [hpushed, List.length_append, List.length_singleton, List.range_succ]
    exact congrArg (· ++ _) h.pushed_eq
  push {before handle' element' answer'} hprefix := by
    rcases List.prefix_concat_iff.mp hprefix with heq | hbefore
    · obtain ⟨rfl, hcall⟩ := List.append_inj' heq rfl
      cases hcall
      exact ⟨hopen, hlast⟩
    · exact h.push hbefore

end AppendsInOrder

/-- The calls of an invocation between two pushes: nothing has failed, `made` elements have been
pushed, and a handle is the last that was issued. -/
structure Appending (handle made : Nat) (calls : List AdapterCall) : Prop
    extends AppendsInOrder calls where
  firstError_eq : firstError calls = none
  length_pushed : (pushed calls).length = made
  last_issued : (issued calls).getLast? = some handle

/-- The calls of an invocation of `len` pushes that came to an answer: the answer is the first error
of a call, and all elements have been pushed if there was none. -/
structure Concludes (len : Nat) (answer : Except AdapterError β) (calls : List AdapterCall) : Prop
    extends AppendsInOrder calls where
  firstError_eq : firstError calls = AdapterError.of? answer
  length_pushed_le : (pushed calls).length ≤ len
  length_pushed : firstError calls = none → (pushed calls).length = len

namespace Appending

variable {calls : List AdapterCall} {call : AdapterCall} {handle made len : Nat}
  {error : AdapterError}

theorem empty : Appending 0 0 [.empty 0] where
  toAppendsInOrder := AppendsInOrder.nil.concat rfl
  firstError_eq := rfl
  length_pushed := rfl
  last_issued := rfl

theorem push_ok (h : Appending handle made calls) :
    Appending (issued calls).length (made + 1)
      (calls ++ [.push handle made (.ok (issued calls).length)]) where
  toAppendsInOrder := by
    rw [← h.length_pushed]
    exact h.concat_push h.firstError_eq h.last_issued _
  firstError_eq := by
    rw [firstError_concat, h.firstError_eq]
    rfl
  length_pushed := by
    rw [pushed_concat, List.length_append, h.length_pushed]
    rfl
  last_issued := by
    rw [issued_concat]
    exact List.getLast?_concat

theorem push_error (h : Appending handle made calls) (hmade : made < len) :
    Concludes len (.error error : Except AdapterError β)
      (calls ++ [.push handle made (.error error)]) where
  toAppendsInOrder := by
    rw [← h.length_pushed]
    exact h.concat_push h.firstError_eq h.last_issued _
  firstError_eq := by
    rw [firstError_concat, h.firstError_eq]
    rfl
  length_pushed_le := by
    rw [pushed_concat, List.length_append, h.length_pushed]
    exact hmade
  length_pushed hnone := by
    rw [firstError_concat, h.firstError_eq] at hnone
    cases hnone

/-- A call that neither pushes nor issues anything and does not fail. -/
theorem concat (h : Appending handle made calls) (hpushed : call.pushed? = none)
    (hissued : call.issued? = none) (herror : call.error? = none) :
    Appending handle made (calls ++ [call]) where
  toAppendsInOrder := h.toAppendsInOrder.concat hpushed
  firstError_eq := by rw [firstError_concat, h.firstError_eq, herror, Option.none_or]
  length_pushed := by simpa [pushed_concat, hpushed] using h.length_pushed
  last_issued := by simpa [issued_concat, hissued] using h.last_issued

/-- A call that does not push and fails. -/
theorem concat_error (h : Appending handle made calls) (hmade : made ≤ len)
    (hpushed : call.pushed? = none) (herror : call.error? = some error) :
    Concludes len (.error error : Except AdapterError β) (calls ++ [call]) where
  toAppendsInOrder := h.toAppendsInOrder.concat hpushed
  firstError_eq := by rw [firstError_concat, h.firstError_eq, herror, Option.none_or]; rfl
  length_pushed_le := by
    rw [pushed_concat, hpushed, List.length_append, h.length_pushed]
    exact hmade
  length_pushed hnone := by
    rw [firstError_concat, h.firstError_eq, herror] at hnone
    cases hnone

/-- An invocation that has pushed all elements and does nothing else. -/
theorem concludes (h : Appending handle len calls) (result : β) :
    Concludes len (.ok result : Except AdapterError β) calls where
  toAppendsInOrder := h.toAppendsInOrder
  firstError_eq := h.firstError_eq
  length_pushed_le := Nat.le_of_eq h.length_pushed
  length_pushed _ := h.length_pushed

end Appending

namespace Concludes

variable {calls : List AdapterCall} {call : AdapterCall} {len : Nat} {error : AdapterError}

/-- What is answered after the first error does not matter. -/
theorem concat (h : Concludes len (.error error : Except AdapterError β) calls)
    (hpushed : call.pushed? = none) :
    Concludes len (.error error : Except AdapterError β) (calls ++ [call]) where
  toAppendsInOrder := h.toAppendsInOrder.concat hpushed
  firstError_eq := by rw [firstError_concat, h.firstError_eq]; rfl
  length_pushed_le := by simpa [pushed_concat, hpushed] using h.length_pushed_le
  length_pushed hnone := by
    rw [firstError_concat, h.firstError_eq] at hnone
    cases hnone

theorem of_error {γ : Type} (h : Concludes len (.error error : Except AdapterError β) calls) :
    Concludes len (.error error : Except AdapterError γ) calls :=
  ⟨h.toAppendsInOrder, h.firstError_eq, h.length_pushed_le, h.length_pushed⟩

end Concludes

/-! ## Recorded operations -/

namespace Recorded

variable {adapter : Adapter σ η} {handle : Nat × η} {recorded after : Recorded σ}
  {error : AdapterError} {made len last : Nat}

theorem appending_retire (h : Appending last made recorded.calls)
    (hretire : adapter.recording.retire handle recorded = (.ok (), after)) :
    Appending last made after.calls := by
  rcases retire_cases hretire with ⟨-, hcalls⟩ | hcalls
  · rwa [hcalls]
  · rw [hcalls]
    exact h.concat rfl rfl rfl

theorem concludes_retire (h : Appending last made recorded.calls) (hmade : made ≤ len)
    (hretire : adapter.recording.retire handle recorded = (.error error, after)) :
    Concludes len (.error error : Except AdapterError β) after.calls := by
  rcases retire_cases hretire with ⟨hok, -⟩ | hcalls
  · cases hok
  · rw [hcalls]
    exact h.concat_error hmade rfl rfl

/-- Giving a version back after a failure leaves the failure, even if that fails as well. -/
theorem concludes_abandon (adapter : Adapter σ η) (handle : Nat × η)
    (h : Concludes len (.error error : Except AdapterError β) recorded.calls) :
    Concludes len (.error error : Except AdapterError β)
      (adapter.recording.abandon handle recorded).calls := by
  rcases hretire : adapter.recording.retire handle recorded with ⟨answer, after⟩
  rw [Adapter.abandon, hretire]
  rcases retire_cases hretire with ⟨-, hcalls⟩ | hcalls
  · rwa [hcalls]
  · rw [hcalls]
    exact h.concat rfl

/-- What is known after the pushes of an invocation. -/
def Appended (len : Nat) : Except AdapterError (Nat × η) × Recorded σ → Prop
  | (.ok last, after) => Appending last.1 len after.calls
  | (.error error, after) =>
    Concludes len (.error error : Except AdapterError (Nat × η)) after.calls

theorem appended_pushFrom (adapter : Adapter σ η) {current : Nat × η} {next : Element}
    (h : Appending current.1 next recorded.calls) (count : Nat) :
    Appended (next + count) (adapter.recording.pushFrom current next count recorded) := by
  induction count generalizing recorded current next with
  | zero => exact h
  | succ count ih =>
    rw [Adapter.pushFrom]
    split
    next error pushed hpush =>
      apply concludes_abandon
      rw [push_error hpush]
      exact h.push_error (by omega)
    next newer pushed hpush =>
      obtain ⟨hnewer, hcalls⟩ := push_ok hpush
      have hpushed : Appending newer.1 (next + 1) pushed.calls := by
        rw [hnewer, hcalls]
        exact h.push_ok
      split
      next error retired hretire =>
        apply concludes_abandon
        exact concludes_retire hpushed (by omega) hretire
      next retired hretire =>
        have hrest := ih (appending_retire hpushed hretire)
        rwa [Nat.add_right_comm] at hrest

theorem appended_build (workload : Workload) (adapter : Adapter σ η) (state : σ) :
    Appended workload.len (workload.build adapter.recording { state }) := by
  let recorded : Recorded σ := { state }
  have hempty : Appending (adapter.recording.empty recorded).1.1 0
      (adapter.recording.empty recorded).2.calls := .empty
  have hpushes := appended_pushFrom adapter hempty workload.len
  rwa [Nat.zero_add] at hpushes

theorem concludes_run (workload : Workload) (adapter : Adapter σ η) (state : σ) :
    let run := workload.run adapter.recording { state }
    Concludes workload.len run.1 run.2.calls := by
  have hbuilt := appended_build workload adapter state
  unfold Workload.run
  split
  next error built hbuild =>
    rw [hbuild] at hbuilt
    exact hbuilt.of_error
  next last built hbuild =>
    rw [hbuild] at hbuilt
    rcases hretire : adapter.recording.retire last built with ⟨answer, after⟩
    cases answer with
    | error error => exact concludes_retire hbuilt (Nat.le_refl _) hretire
    | ok done => exact (appending_retire hbuilt hretire).concludes ()

theorem concludes_materialize (workload : Workload) (adapter : Adapter σ η) (state : σ) :
    let materialize := workload.materialize adapter.recording { state }
    Concludes workload.len materialize.1 materialize.2.calls := by
  have hbuilt := appended_build workload adapter state
  unfold Workload.materialize
  split
  next error built hbuild =>
    rw [hbuild] at hbuilt
    exact hbuilt.of_error
  next last built hbuild =>
    rw [hbuild] at hbuilt
    rcases hread : adapter.recording.read last built with ⟨contents, seen⟩
    rcases hretire : adapter.recording.retire last seen with ⟨retired, after⟩
    have hcalls := read_eq hread
    cases contents with
    | error error =>
      -- Whether or not the version can be given back, the reading error came first.
      have hseen : Concludes workload.len (.error error : Except AdapterError (List Element))
          seen.calls := by
        rw [hcalls]
        exact hbuilt.concat_error (Nat.le_refl _) rfl rfl
      have hafter := concludes_abandon adapter last hseen
      rw [Adapter.abandon, hretire] at hafter
      simpa only [hretire] using hafter
    | ok elements =>
      have hseen : Appending last.1 workload.len seen.calls := by
        rw [hcalls]
        exact hbuilt.concat rfl rfl rfl
      simp only [hretire]
      cases retired with
      | error error => exact concludes_retire hseen (Nat.le_refl _) hretire
      | ok done => exact (appending_retire hseen hretire).concludes elements

/-! ## Reading the last version -/

theorem retire_congr (adapter : Adapter σ η) (handle : Nat × η) {other : Recorded σ}
    (hstate : recorded.state = other.state) :
    (adapter.recording.retire handle recorded).1 = (adapter.recording.retire handle other).1 ∧
      (adapter.recording.retire handle recorded).2.state =
        (adapter.recording.retire handle other).2.state := by
  unfold Adapter.retire
  split
  · simp only [Adapter.recording, record, hstate, and_self]
  · exact ⟨rfl, hstate⟩

theorem mem_calls_retire {call : AdapterCall} {answer : Except AdapterError Unit}
    (hcall : call ∈ recorded.calls)
    (hretire : adapter.recording.retire handle recorded = (answer, after)) :
    call ∈ after.calls := by
  rcases retire_cases hretire with ⟨-, hcalls⟩ | hcalls
  · rwa [hcalls]
  · rw [hcalls]
    exact List.mem_append_left _ hcall

end Recorded

/-- Reading a version leaves the state of the adapter as it is, even if it fails. -/
def Adapter.ReadsInPlace (adapter : Adapter σ η) : Prop :=
  ∀ handle state, (adapter.read handle state).2 = state

/-- The recorded calls of two invocations, with and without reading the last version, lead to the
same state, and to the same answer unless reading failed. -/
theorem Recorded.materialize_agrees {adapter : Adapter σ η} (hreads : adapter.ReadsInPlace)
    (workload : Workload) (state : σ) :
    let run := workload.run adapter.recording { state }
    let materialize := workload.materialize adapter.recording { state }
    materialize.2.state = run.2.state ∧
      ((∀ handle error, .read handle (.error error) ∉ materialize.2.calls) →
        materialize.1.map (fun _ ↦ ()) = run.1) := by
  unfold Workload.run Workload.materialize
  rcases hbuild : workload.build adapter.recording { state } with ⟨answer, built⟩
  cases answer with
  | error error => exact ⟨rfl, fun _ ↦ rfl⟩
  | ok last =>
    rcases hread : adapter.recording.read last built with ⟨contents, seen⟩
    have hstate : seen.state = built.state := by
      obtain ⟨-, rfl⟩ := Prod.mk.inj hread
      exact hreads last.2 built.state
    obtain ⟨hanswer, hafter⟩ := retire_congr adapter last hstate
    rcases hretire : adapter.recording.retire last seen with ⟨retired, after⟩
    rw [hretire] at hanswer hafter
    simp only [hread, hretire, ← hanswer, ← hafter]
    cases contents with
    | error error =>
      refine ⟨rfl, fun hnone ↦ absurd ?_ (hnone last.1 error)⟩
      apply mem_calls_retire _ hretire
      rw [read_eq hread]
      exact List.mem_append_right _ List.mem_cons_self
    | ok elements =>
      cases retired with
      | error error => exact ⟨rfl, fun _ ↦ rfl⟩
      | ok done => exact ⟨rfl, fun _ ↦ rfl⟩

/-- Whatever adapter a workload drives and whatever its operations answer: the answer of an
invocation, with and without reading the last version, is the first error that a call answered, and
success if there was none. The elements are pushed in order, each onto the version that the push
before it returned, until a call fails, and all of them if none does. The recorded invocations end
as the adapter's own. If reading leaves the adapter as it is, both invocations leave it in the same
state, and they answer alike unless reading failed. -/
theorem first_error_stands (workload : Workload) (adapter : Adapter σ η) (state : σ) :
    let run := workload.run adapter.recording { state }
    let materialize := workload.materialize adapter.recording { state }
    (run.1, run.2.state) = workload.run adapter state ∧
      Concludes workload.len run.1 run.2.calls ∧
      (materialize.1, materialize.2.state) = workload.materialize adapter state ∧
      Concludes workload.len materialize.1 materialize.2.calls ∧
      (adapter.ReadsInPlace → materialize.2.state = run.2.state ∧
        ((∀ handle error, .read handle (.error error) ∉ materialize.2.calls) →
          materialize.1.map (fun _ ↦ ()) = run.1)) :=
  ⟨Recorded.run_eq workload adapter { state }, Recorded.concludes_run workload adapter state,
    Recorded.materialize_eq workload adapter { state },
    Recorded.concludes_materialize workload adapter state,
    fun hreads ↦ Recorded.materialize_agrees hreads workload state⟩

/-- The third push fails, and so does giving back the version it was made onto. -/
theorem first_error_stands_abandoned :
    let adapter := Adapter.faulty "faulty" .manual none
      { pushError := some (2, .capacity 2), releaseError := some (2, .backend "lost") }
    let run := (Workload.mk 5).run adapter.recording { state := {} }
    let materialize := (Workload.mk 5).materialize adapter.recording { state := {} }
    adapter.ReadsInPlace ∧
      run.2.calls = [.empty 0, .push 0 0 (.ok 1), .release 0 (.ok ()), .push 1 1 (.ok 2),
        .release 1 (.ok ()), .push 2 2 (.error (.capacity 2)),
        .release 2 (.error (.backend "lost"))] ∧
      Concludes 5 run.1 run.2.calls ∧ run.1 = .error (.capacity 2) ∧
      materialize.2.state = run.2.state ∧ materialize.1.map (fun _ ↦ ()) = run.1 := by
  intro adapter run materialize
  have hreads : adapter.ReadsInPlace := fun _ _ ↦ rfl
  obtain ⟨-, hrun, -, -, hagree⟩ := first_error_stands ⟨5⟩ adapter {}
  obtain ⟨hstate, hanswer⟩ := hagree hreads
  have hcalls : run.2.calls = [.empty 0, .push 0 0 (.ok 1), .release 0 (.ok ()),
      .push 1 1 (.ok 2), .release 1 (.ok ()), .push 2 2 (.error (.capacity 2)),
      .release 2 (.error (.backend "lost"))] := rfl
  refine ⟨hreads, hcalls, hrun, rfl, hstate, hanswer ?_⟩
  intro handle error hmem
  have hsame : AdapterCall.read handle (.error error) ∈ run.2.calls := hmem
  rw [hcalls] at hsame
  simp at hsame

end PushBench
