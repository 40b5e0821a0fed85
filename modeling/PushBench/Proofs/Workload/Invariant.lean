import PushBench.Workload

/-!
# Invariants of the append workload

A workload holds no version before it starts, one version between two pushes, and two versions
between a push and the release of the version it started from. What an adapter keeps in each of
these three situations, whatever its operations answer, holds when an invocation returns, on every
path.
-/

namespace PushBench

variable {σ η : Type}

/-- What an adapter keeps while a workload drives it. -/
structure Workload.Invariant (adapter : Adapter σ η) where
  /-- No version is held. -/
  idle : σ → Prop
  one : η → σ → Prop
  /-- The older version is held beside the newer one. -/
  two : η → η → σ → Prop
  empty {state : σ} : idle state → one (adapter.empty state).1 (adapter.empty state).2
  push_ok {handle newer : η} {state after : σ} (element : Element) : one handle state →
    adapter.push handle element state = (.ok newer, after) → two handle newer after
  push_error {handle : η} {state after : σ} {error : AdapterError} (element : Element) :
    one handle state → adapter.push handle element state = (.error error, after) → one handle after
  read {handle : η} {state : σ} : one handle state → one handle (adapter.read handle state).2
  retire_one {handle : η} {state : σ} : one handle state → idle (adapter.retire handle state).2
  retire_older {older newer : η} {state : σ} : two older newer state →
    one newer (adapter.retire older state).2

namespace Workload.Invariant

variable {adapter : Adapter σ η} (invariant : Workload.Invariant adapter)

/-- Between the pushes of an invocation and its end: the last version is held, unless a failure
ended the pushes. -/
def Built : Except AdapterError η × σ → Prop
  | (.ok last, state) => invariant.one last state
  | (.error _, state) => invariant.idle state

variable {state : σ}

theorem pushFrom {current : η} (h : invariant.one current state) (next : Element) (count : Nat) :
    invariant.Built (adapter.pushFrom current next count state) := by
  induction count generalizing state current next with
  | zero => exact h
  | succ count ih =>
    unfold Adapter.pushFrom
    split
    next error pushed hpush => exact invariant.retire_one (invariant.push_error next h hpush)
    next newer pushed hpush =>
      have hnewer := invariant.retire_older (invariant.push_ok next h hpush)
      split
      next error retired hretire =>
        rw [hretire] at hnewer
        exact invariant.retire_one hnewer
      next retired hretire =>
        rw [hretire] at hnewer
        exact ih hnewer (next + 1)

theorem build (h : invariant.idle state) (workload : Workload) :
    invariant.Built (workload.build adapter state) :=
  invariant.pushFrom (invariant.empty h) 0 workload.len

theorem run (h : invariant.idle state) (workload : Workload) :
    invariant.idle (workload.run adapter state).2 := by
  have hbuild := invariant.build h workload
  unfold Workload.run
  split
  next error built hbuilt =>
    rw [hbuilt] at hbuild
    exact hbuild
  next last built hbuilt =>
    rw [hbuilt] at hbuild
    exact invariant.retire_one hbuild

theorem materialize (h : invariant.idle state) (workload : Workload) :
    invariant.idle (workload.materialize adapter state).2 := by
  have hbuild := invariant.build h workload
  unfold Workload.materialize
  split
  next error built hbuilt =>
    rw [hbuilt] at hbuild
    exact hbuild
  next last built hbuilt =>
    rw [hbuilt] at hbuild
    -- The last version is given back whatever reading it answered.
    have hretire := invariant.retire_one (invariant.read hbuild)
    rcases hread : adapter.read last built with ⟨contents, seen⟩
    rw [hread] at hretire
    dsimp only
    split
    next hretired => rw [hretired] at hretire; exact hretire
    next hretired => rw [hretired] at hretire; exact hretire
    next hretired => rw [hretired] at hretire; exact hretire

/-! ## Errors -/

/-- What is known of an error that an operation answered, and stays known while the versions that
are still held are given back. -/
structure Notes (noted : AdapterError → σ → Prop) : Prop where
  push {handle : η} {state after : σ} {error : AdapterError} (element : Element) :
    invariant.one handle state → adapter.push handle element state = (.error error, after) →
      noted error after
  read {handle : η} {state after : σ} {error : AdapterError} : invariant.one handle state →
    adapter.read handle state = (.error error, after) → noted error after
  retire_one {handle : η} {state after : σ} {error : AdapterError} : invariant.one handle state →
    adapter.retire handle state = (.error error, after) → noted error after
  retire_older {older newer : η} {state after : σ} {error : AdapterError} :
    invariant.two older newer state → adapter.retire older state = (.error error, after) →
      noted error after
  abandon {handle : η} {state : σ} {error : AdapterError} : invariant.one handle state →
    noted error state → noted error (adapter.retire handle state).2

namespace Notes

variable {invariant} {noted : AdapterError → σ → Prop} {after : σ} {error : AdapterError}

theorem pushFrom (h : invariant.Notes noted) {current : η} (hcurrent : invariant.one current state)
    {next : Element} {count : Nat}
    (hpushes : adapter.pushFrom current next count state = (.error error, after)) :
    noted error after := by
  induction count generalizing state current next with
  | zero => cases hpushes
  | succ count ih =>
    unfold Adapter.pushFrom at hpushes
    split at hpushes
    next pushed hpush =>
      cases hpushes
      exact h.abandon (invariant.push_error next hcurrent hpush) (h.push next hcurrent hpush)
    next newer pushed hpush =>
      have htwo := invariant.push_ok next hcurrent hpush
      have hnewer := invariant.retire_older htwo
      split at hpushes
      next retired hretire =>
        cases hpushes
        rw [hretire] at hnewer
        exact h.abandon hnewer (h.retire_older htwo hretire)
      next retired hretire =>
        rw [hretire] at hnewer
        exact ih hnewer hpushes

theorem build (h : invariant.Notes noted) (hidle : invariant.idle state) {workload : Workload}
    (hbuild : workload.build adapter state = (.error error, after)) : noted error after :=
  h.pushFrom (invariant.empty hidle) hbuild

/-- The error of an invocation is one that an operation answered. -/
theorem run (h : invariant.Notes noted) (hidle : invariant.idle state) {workload : Workload}
    (hrun : workload.run adapter state = (.error error, after)) : noted error after := by
  have hbuilt := invariant.build hidle workload
  unfold Workload.run at hrun
  split at hrun
  next built hbuild =>
    cases hrun
    exact h.build hidle hbuild
  next last built hbuild =>
    rw [hbuild] at hbuilt
    exact h.retire_one hbuilt hrun

/-- The error of an invocation that reads the last version is one that an operation answered. -/
theorem materialize (h : invariant.Notes noted) (hidle : invariant.idle state)
    {workload : Workload}
    (hmaterialize : workload.materialize adapter state = (.error error, after)) :
    noted error after := by
  have hbuilt := invariant.build hidle workload
  unfold Workload.materialize at hmaterialize
  split at hmaterialize
  next built hbuild =>
    cases hmaterialize
    exact h.build hidle hbuild
  next last built hbuild =>
    rw [hbuild] at hbuilt
    have hseen := invariant.read hbuilt
    rcases hread : adapter.read last built with ⟨contents, seen⟩
    rw [hread] at hseen hmaterialize
    dsimp only at hmaterialize
    split at hmaterialize
    next retired after hretire =>
      cases hmaterialize
      have hafter := h.abandon hseen (h.read hbuilt hread)
      rwa [hretire] at hafter
    next retired after hretire =>
      cases hmaterialize
      exact h.retire_one hseen hretire
    next => cases hmaterialize

end Notes

end Workload.Invariant

end PushBench
