import PushBench.Proofs.Adapter.Trace
import PushBench.Proofs.Workload.Invariant

/-!
# The release discipline of the append workload

Where versions have to be given back, an invocation gives back every version it was issued exactly
once, uses no version after that, and never holds more than two, whatever the adapter answers.
Where versions are collected, it gives none back.
-/

namespace PushBench

variable {σ η : Type}

/-- Handles are used while they are held, and at most two are held at any moment. -/
structure UsesHeld (calls : List AdapterCall) : Prop where
  /-- A call acts on a handle that was issued and not passed to release before the call. -/
  target_held {before : List AdapterCall} {call : AdapterCall} {handle : Nat} :
    before ++ [call] <+: calls → call.target? = some handle → handle ∈ AdapterCall.held before
  length_held_le {before : List AdapterCall} : before <+: calls →
    (AdapterCall.held before).length ≤ 2

/-- What a client that gives versions back owes to an adapter, judged by the client's calls. -/
structure ReleaseDiscipline (calls : List AdapterCall) : Prop extends UsesHeld calls where
  issued_nodup : (AdapterCall.issued calls).Nodup
  /-- Every handle that was issued is passed to release exactly once. -/
  count_released {handle : Nat} : handle ∈ AdapterCall.issued calls →
    (AdapterCall.released calls).count handle = 1

/-- The discipline that goes with the kind of an adapter. -/
def AdapterKind.KeepsDiscipline : AdapterKind → List AdapterCall → Prop
  | .manual, calls => ReleaseDiscipline calls
  | .collected, calls => AdapterCall.released calls = []

/-- The discipline in the middle of an invocation: some handles are still held, and every other
handle that was issued was passed to release once. -/
structure Holding (calls : List AdapterCall) (handles : List Nat) : Prop
    extends UsesHeld calls where
  held_eq : AdapterCall.held calls = handles
  issued_eq : AdapterCall.issued calls = List.range (AdapterCall.issued calls).length
  released_nodup : (AdapterCall.released calls).Nodup
  mem_issued {handle : Nat} : handle ∈ AdapterCall.released calls →
    handle ∈ AdapterCall.issued calls

namespace Holding

variable {calls : List AdapterCall} {call : AdapterCall} {handles : List Nat} {handle newer : Nat}

theorem nil : Holding [] [] where
  held_eq := rfl
  issued_eq := rfl
  released_nodup := .nil
  mem_issued h := h
  target_held hbefore := by simp at hbefore
  length_held_le hbefore := by
    rw [List.prefix_nil.mp hbefore]
    exact Nat.zero_le 2

theorem issued_nodup (h : Holding calls handles) : (AdapterCall.issued calls).Nodup := by
  rw [h.issued_eq]
  exact List.nodup_range

/-- A held handle was issued and not passed to release. -/
theorem mem_held (h : Holding calls handles) (hmem : handle ∈ handles) :
    handle ∈ AdapterCall.issued calls ∧ handle ∉ AdapterCall.released calls := by
  rw [← h.held_eq] at hmem
  simpa [AdapterCall.held] using hmem

theorem discipline (h : Holding calls []) : ReleaseDiscipline calls where
  toUsesHeld := h.toUsesHeld
  issued_nodup := h.issued_nodup
  count_released {handle} hissued := by
    have hreleased : handle ∈ AdapterCall.released calls := by
      have hheld : handle ∉ AdapterCall.held calls := by simp [h.held_eq]
      simpa [AdapterCall.held, hissued] using hheld
    rw [h.released_nodup.count, if_pos hreleased]

/-- One more call, which acts on a held handle, leaves the handles that `after` lists. -/
theorem concat {after : List Nat} (h : Holding calls handles)
    (htarget : ∀ handle, call.target? = some handle → handle ∈ handles)
    (hheld : AdapterCall.held (calls ++ [call]) = after) (hlength : after.length ≤ 2)
    (hissued : ∀ number, call.issued? = some number →
      number = (AdapterCall.issued calls).length) :
    Holding (calls ++ [call]) after where
  held_eq := hheld
  issued_eq := by
    rw [AdapterCall.issued_concat, List.length_append]
    cases hnew : call.issued? with
    | none => simpa using h.issued_eq
    | some number =>
      rw [hissued number hnew]
      simpa [List.range_succ] using h.issued_eq
  released_nodup := by
    rw [AdapterCall.released_concat]
    cases hgiven : call.released? with
    | none => simpa using h.released_nodup
    | some handle =>
      have hnot := (h.mem_held (htarget handle (AdapterCall.target?_of_released? hgiven))).2
      simpa [List.nodup_append] using ⟨h.released_nodup, fun other hother heq ↦ hnot (heq ▸ hother)⟩
  mem_issued {handle} hmem := by
    rw [AdapterCall.released_concat, List.mem_append] at hmem
    rw [AdapterCall.issued_concat, List.mem_append]
    refine Or.inl ?_
    rcases hmem with hold | hnew
    · exact h.mem_issued hold
    · have hgiven : call.released? = some handle := by simpa using hnew
      exact (h.mem_held (htarget handle (AdapterCall.target?_of_released? hgiven))).1
  target_held {before other handle} hbefore hother := by
    rcases List.prefix_concat_iff.mp hbefore with heq | hbefore
    · obtain ⟨rfl, hcall⟩ := List.append_inj' heq rfl
      cases hcall
      rw [h.held_eq]
      exact htarget handle hother
    · exact h.target_held hbefore hother
  length_held_le {before} hbefore := by
    rcases List.prefix_concat_iff.mp hbefore with rfl | hbefore
    · rwa [hheld]
    · exact h.length_held_le hbefore

/-- A call that issues nothing and passes nothing to release. -/
theorem keep (h : Holding calls handles)
    (htarget : ∀ handle, call.target? = some handle → handle ∈ handles)
    (hissued : call.issued? = none) (hreleased : call.released? = none) :
    Holding (calls ++ [call]) handles := by
  have hheld : AdapterCall.held (calls ++ [call]) = handles := by
    rw [← h.held_eq]
    simp [AdapterCall.held, AdapterCall.issued_concat, hissued,
      AdapterCall.released_concat_of_none calls hreleased]
  refine h.concat htarget hheld ?_ (by simp [hissued])
  rw [← h.held_eq]
  exact h.length_held_le (List.prefix_refl calls)

/-- A call that issues the next handle. -/
theorem issue (h : Holding calls handles)
    (htarget : ∀ handle, call.target? = some handle → handle ∈ handles)
    (hissued : call.issued? = some (AdapterCall.issued calls).length)
    (hreleased : call.released? = none) (hlength : handles.length < 2) :
    Holding (calls ++ [call]) (handles ++ [(AdapterCall.issued calls).length]) := by
  have hfresh : (AdapterCall.issued calls).length ∉ AdapterCall.released calls := fun hmem ↦ by
    have hold := h.mem_issued hmem
    rw [h.issued_eq, List.mem_range, List.length_range] at hold
    exact Nat.lt_irrefl _ hold
  have hheld : AdapterCall.held (calls ++ [call]) =
      handles ++ [(AdapterCall.issued calls).length] := by
    rw [← h.held_eq]
    simp [AdapterCall.held, AdapterCall.issued_concat, hissued, hfresh,
      AdapterCall.released_concat_of_none calls hreleased]
  refine h.concat htarget hheld ?_ (by simp [hissued])
  rw [List.length_append]
  exact hlength

/-- A call that passes a held handle to release. -/
theorem release (h : Holding calls (handle :: handles)) (hreleased : call.released? = some handle) :
    Holding (calls ++ [call]) handles := by
  have hfirst : handle ∉ handles := by
    have hnodup : (AdapterCall.held calls).Nodup := h.issued_nodup.filter _
    rw [h.held_eq] at hnodup
    exact (List.nodup_cons.mp hnodup).1
  have hheld : AdapterCall.held (calls ++ [call]) = handles := by
    calc
      AdapterCall.held (calls ++ [call]) =
          (AdapterCall.held calls).filter fun other ↦ other ≠ handle := by
        simp [AdapterCall.held, AdapterCall.issued_concat, AdapterCall.released_concat, hreleased,
          AdapterCall.issued?_of_released? hreleased, List.filter_filter, Bool.and_comm]
      _ = handles := by
        have hother : ∀ other ∈ handles, other ≠ handle :=
          fun other hmem heq ↦ hfirst (heq ▸ hmem)
        rw [h.held_eq, List.filter_cons_of_neg (by simp), List.filter_eq_self]
        simpa using hother
  have htarget := AdapterCall.target?_of_released? hreleased
  refine h.concat (by simp [htarget]) hheld ?_
    (by simp [AdapterCall.issued?_of_released? hreleased])
  have hlength := h.length_held_le (List.prefix_refl calls)
  rw [h.held_eq, List.length_cons] at hlength
  omega

end Holding

namespace Recorded

/-- What holds of the calls of a workload where versions have to be given back. -/
def manualInvariant (adapter : Adapter σ η) (hkind : adapter.kind = .manual) :
    Workload.Invariant adapter.recording where
  idle recorded := Holding recorded.calls []
  one handle recorded := Holding recorded.calls [handle.1]
  two older newer recorded := Holding recorded.calls [older.1, newer.1]
  empty h := h.issue (by simp [AdapterCall.target?]) rfl rfl (by simp)
  push_ok {handle newer recorded after} element h hpush := by
    simp only [Adapter.recording, Prod.mk.injEq] at hpush
    obtain ⟨hanswer, rfl⟩ := hpush
    cases hinner : (adapter.push handle.2 element recorded.state).1 with
    | error error => simp [hinner, Except.map] at hanswer
    | ok version =>
      simp only [hinner, Except.map, Except.ok.injEq] at hanswer
      subst hanswer
      exact h.issue (by simp [AdapterCall.target?]) rfl rfl (by simp)
  push_error {handle recorded after error} element h hpush := by
    simp only [Adapter.recording, Prod.mk.injEq] at hpush
    obtain ⟨hanswer, rfl⟩ := hpush
    cases hinner : (adapter.push handle.2 element recorded.state).1 with
    | error error => exact h.keep (by simp [AdapterCall.target?]) rfl rfl
    | ok version => simp [hinner, Except.map] at hanswer
  read h := h.keep (by simp [AdapterCall.target?]) rfl rfl
  retire_one {handle recorded} h := by
    simp only [Adapter.retire, Adapter.recording, hkind, AdapterKind.needsRelease, if_true]
    exact h.release rfl
  retire_older {older newer recorded} h := by
    simp only [Adapter.retire, Adapter.recording, hkind, AdapterKind.needsRelease, if_true]
    exact h.release rfl

/-- What holds of the calls of a workload where versions are collected. -/
def collectedInvariant (adapter : Adapter σ η) (hkind : adapter.kind = .collected) :
    Workload.Invariant adapter.recording where
  idle recorded := AdapterCall.released recorded.calls = []
  one _ recorded := AdapterCall.released recorded.calls = []
  two _ _ recorded := AdapterCall.released recorded.calls = []
  empty h := (AdapterCall.released_concat_of_none _ rfl).trans h
  push_ok element h hpush := by
    simp only [Adapter.recording, Prod.mk.injEq] at hpush
    obtain ⟨-, rfl⟩ := hpush
    exact (AdapterCall.released_concat_of_none _ rfl).trans h
  push_error element h hpush := by
    simp only [Adapter.recording, Prod.mk.injEq] at hpush
    obtain ⟨-, rfl⟩ := hpush
    exact (AdapterCall.released_concat_of_none _ rfl).trans h
  read h := (AdapterCall.released_concat_of_none _ rfl).trans h
  retire_one h := by
    simpa [Adapter.retire, Adapter.recording, hkind, AdapterKind.needsRelease] using h
  retire_older h := by
    simpa [Adapter.retire, Adapter.recording, hkind, AdapterKind.needsRelease] using h

end Recorded

/-- Whatever adapter a workload drives and whatever its operations answer, an invocation keeps the
discipline of the adapter's kind on every path, with and without reading the last version. The
recorded invocation ends as the adapter's own. -/
theorem workload_keeps_discipline (workload : Workload) (adapter : Adapter σ η) (state : σ) :
    let run := workload.run adapter.recording { state }
    let materialize := workload.materialize adapter.recording { state }
    (run.1, run.2.state) = workload.run adapter state ∧
      adapter.kind.KeepsDiscipline run.2.calls ∧
      (materialize.1, materialize.2.state) = workload.materialize adapter state ∧
      adapter.kind.KeepsDiscipline materialize.2.calls := by
  intro run materialize
  have hkept : adapter.kind.KeepsDiscipline run.2.calls ∧
      adapter.kind.KeepsDiscipline materialize.2.calls := by
    cases hkind : adapter.kind with
    | manual =>
      let invariant := Recorded.manualInvariant adapter hkind
      have hstart : invariant.idle { state } := Holding.nil
      have hrun : Holding run.2.calls [] := invariant.run hstart workload
      have hmaterialize : Holding materialize.2.calls [] :=
        invariant.materialize hstart workload
      exact ⟨hrun.discipline, hmaterialize.discipline⟩
    | collected =>
      let invariant := Recorded.collectedInvariant adapter hkind
      have hstart : invariant.idle { state } := rfl
      exact ⟨invariant.run hstart workload, invariant.materialize hstart workload⟩
  exact ⟨Recorded.run_eq workload adapter { state }, hkept.1,
    Recorded.materialize_eq workload adapter { state }, hkept.2⟩

end PushBench
