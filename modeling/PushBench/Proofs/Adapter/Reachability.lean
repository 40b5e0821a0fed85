import PushBench.Adapter.Session
import PushBench.Proofs.Workload.Invariant

/-!
# Where operations lead

A state of an adapter leads to another if operations take the one to the other, whatever handles
they are given. Invocations and whole sessions lead on from where they start.
-/

namespace PushBench

variable {σ η : Type}

/-- The error of an answer, if it is one. -/
def errorsOf {α : Type} : Except AdapterError α → List AdapterError
  | .ok _ => []
  | .error error => [error]

/-- Which states the operations of an adapter lead to, and which errors they answer on the way. -/
inductive Adapter.Leads (adapter : Adapter σ η) (start : σ) : List AdapterError → σ → Prop where
  | start : Leads adapter start [] start
  | empty {errors : List AdapterError} {state : σ} (h : Leads adapter start errors state) :
    Leads adapter start errors (adapter.empty state).2
  | push {errors : List AdapterError} {state : σ} (handle : η) (element : Element)
    (h : Leads adapter start errors state) :
    Leads adapter start (errors ++ errorsOf (adapter.push handle element state).1)
      (adapter.push handle element state).2
  | release {errors : List AdapterError} {state : σ} (handle : η)
    (h : Leads adapter start errors state) :
    Leads adapter start (errors ++ errorsOf (adapter.release handle state).1)
      (adapter.release handle state).2
  | read {errors : List AdapterError} {state : σ} (handle : η)
    (h : Leads adapter start errors state) :
    Leads adapter start (errors ++ errorsOf (adapter.read handle state).1)
      (adapter.read handle state).2

namespace Adapter.Leads

variable {adapter : Adapter σ η} {start between state : σ} {errors later : List AdapterError}

theorem trans (h : adapter.Leads start errors between)
    (hlater : adapter.Leads between later state) :
    adapter.Leads start (errors ++ later) state := by
  induction hlater with
  | start => rwa [List.append_nil]
  | empty _ ih => exact ih.empty
  | push handle element _ ih =>
    rw [← List.append_assoc]
    exact ih.push handle element
  | release handle _ ih =>
    rw [← List.append_assoc]
    exact ih.release handle
  | read handle _ ih =>
    rw [← List.append_assoc]
    exact ih.read handle

end Adapter.Leads

/-! ## Invocations and sessions -/

/-- A state that an adapter's operations lead to, whatever they answer on the way. -/
def Adapter.Reaches (adapter : Adapter σ η) (start state : σ) : Prop :=
  ∃ errors, adapter.Leads start errors state

namespace Adapter.Reaches

variable {adapter : Adapter σ η} {start between state : σ}

theorem refl (adapter : Adapter σ η) (start : σ) : adapter.Reaches start start := ⟨[], .start⟩

theorem trans (h : adapter.Reaches start between) (hlater : adapter.Reaches between state) :
    adapter.Reaches start state :=
  h.elim fun _ h ↦ hlater.elim fun _ hlater ↦ ⟨_, h.trans hlater⟩

theorem empty (h : adapter.Reaches start state) : adapter.Reaches start (adapter.empty state).2 :=
  h.elim fun _ h ↦ ⟨_, h.empty⟩

theorem push (h : adapter.Reaches start state) (handle : η) (element : Element) :
    adapter.Reaches start (adapter.push handle element state).2 :=
  h.elim fun _ h ↦ ⟨_, h.push handle element⟩

theorem release (h : adapter.Reaches start state) (handle : η) :
    adapter.Reaches start (adapter.release handle state).2 :=
  h.elim fun _ h ↦ ⟨_, h.release handle⟩

theorem read (h : adapter.Reaches start state) (handle : η) :
    adapter.Reaches start (adapter.read handle state).2 :=
  h.elim fun _ h ↦ ⟨_, h.read handle⟩

theorem retire (h : adapter.Reaches start state) (handle : η) :
    adapter.Reaches start (adapter.retire handle state).2 := by
  unfold Adapter.retire
  split
  · exact h.release handle
  · exact h

/-- An invocation only takes operations. -/
def invariant (adapter : Adapter σ η) (start : σ) : Workload.Invariant adapter where
  idle := adapter.Reaches start
  one _ := adapter.Reaches start
  two _ _ := adapter.Reaches start
  empty h := h.empty
  push_ok {handle newer state after} element h hpush := by
    have hafter := h.push handle element
    rwa [hpush] at hafter
  push_error {handle state after error} element h hpush := by
    have hafter := h.push handle element
    rwa [hpush] at hafter
  read {handle state} h := h.read handle
  retire_one {handle state} h := h.retire handle
  retire_older {older newer state} h := h.retire older

/-- A step of a session only takes operations. -/
theorem step (h : adapter.Reaches start state) (handles : Array (Option η)) (step : SessionStep) :
    adapter.Reaches start (Session.step adapter ⟨state, handles⟩ step).2.state := by
  have hconclude {α : Type} {session : Session σ η} {answer : α → SessionAnswer η}
      {outcome : Except AdapterError α × σ} (houtcome : adapter.Reaches start outcome.2) :
      adapter.Reaches start (session.conclude answer outcome).2.state := by
    rcases outcome with ⟨_ | _, after⟩ <;> exact houtcome
  have hwith {place : Nat} {act : η → SessionAnswer η × Session σ η}
      (hact : ∀ handle, adapter.Reaches start (act handle).2.state) :
      adapter.Reaches start ((⟨state, handles⟩ : Session σ η).withHandle place act).2.state := by
    unfold Session.withHandle
    split
    · exact hact _
    · exact h
  cases step with
  | empty => exact h.empty
  | push place element =>
    refine hwith fun handle ↦ ?_
    have hpush := h.push handle element
    unfold Session.issueFrom
    split
    next hanswer => rw [hanswer] at hpush; exact hpush
    next hanswer => rw [hanswer] at hpush; exact hpush
  | copy place => exact hwith fun _ ↦ h
  | release place => exact hwith fun handle ↦ hconclude (h.release handle)
  | read place => exact hwith fun handle ↦ hconclude (h.read handle)
  | run workload => exact hconclude ((invariant adapter start).run h workload)
  | build workload => exact hconclude ((invariant adapter start).materialize h workload)
  | fits workload => exact h

/-- A session leads to the state it ends in. -/
theorem session (adapter : Adapter σ η) (steps : List SessionStep) (session : Session σ η) :
    adapter.Reaches session.state (Session.run adapter steps session).2.state := by
  induction steps generalizing session with
  | nil => exact refl adapter session.state
  | cons step steps ih =>
    exact ((refl adapter session.state).step session.handles step).trans (ih _)

end Adapter.Reaches

end PushBench
