import PushBench.Adapter.Session
import PushBench.Proofs.Workload.Invariant

/-!
# Contracts of adapters

What clients can rely on if they only use handles that the adapter issued: which states come about,
what stays true of the handles, and which errors are answered. Whatever drives an adapter with its
own handles, such as a session with second references and invocations of workloads, is covered.
-/

namespace PushBench

/-- What is relied on of states, of handles in them, and of errors. -/
structure Terms (σ η : Type) where
  states : σ → Prop
  handles : σ → η → Prop
  errors : AdapterError → Prop

namespace Terms

variable {σ η α : Type} (terms : Terms σ η)

/-- The step from one state to another leads to a good state, and good handles stay good. -/
structure Keeps (state after : σ) : Prop where
  states : terms.states after
  handles (handle : η) : terms.handles state handle → terms.handles after handle

variable {terms}

theorem Keeps.refl {state : σ} (h : terms.states state) : terms.Keeps state state :=
  ⟨h, fun _ hhandle ↦ hhandle⟩

theorem Keeps.trans {state between after : σ} (h : terms.Keeps state between)
    (hnext : terms.Keeps between after) : terms.Keeps state after :=
  ⟨hnext.states, fun handle hhandle ↦ hnext.handles handle (h.handles handle hhandle)⟩

variable (terms)

/-- An operation keeps the terms: so does its result, if it succeeds, and else its error. -/
structure Honored (good : σ → α → Prop) (state : σ) (outcome : Except AdapterError α × σ) :
    Prop where
  keeps : terms.Keeps state outcome.2
  result {result : α} : outcome.1 = .ok result → good outcome.2 result
  error {error : AdapterError} : outcome.1 = .error error → terms.errors error

end Terms

/-- Terms that an adapter keeps as long as it is given good handles. -/
structure Contract {σ η : Type} (adapter : Adapter σ η) extends Terms σ η where
  empty {state : σ} (hstate : states state) :
    toTerms.Keeps state (adapter.empty state).2 ∧
      handles (adapter.empty state).2 (adapter.empty state).1
  push {state : σ} {handle : η} (hstate : states state) (hhandle : handles state handle)
    (element : Element) : toTerms.Honored handles state (adapter.push handle element state)
  release {state : σ} {handle : η} (hstate : states state) (hhandle : handles state handle) :
    toTerms.Honored (fun _ _ ↦ True) state (adapter.release handle state)
  read {state : σ} {handle : η} (hstate : states state) (hhandle : handles state handle) :
    toTerms.Honored (fun _ _ ↦ True) state (adapter.read handle state)

namespace Contract

variable {σ η : Type} {adapter : Adapter σ η} (contract : Contract adapter) {state : σ}

/-! ## Invocations -/

theorem retire {handle : η} (hstate : contract.states state)
    (hhandle : contract.handles state handle) :
    contract.Honored (fun _ _ ↦ True) state (adapter.retire handle state) := by
  unfold Adapter.retire
  split
  · exact contract.release hstate hhandle
  · exact ⟨.refl hstate, fun _ ↦ trivial, nofun⟩

/-- An invocation keeps the terms from where it starts. -/
def invariant (start : σ) : Workload.Invariant adapter where
  idle := contract.Keeps start
  one handle state := contract.Keeps start state ∧ contract.handles state handle
  two older newer state :=
    contract.Keeps start state ∧ contract.handles state older ∧ contract.handles state newer
  empty h := by
    obtain ⟨hkeeps, hissued⟩ := contract.empty h.states
    exact ⟨h.trans hkeeps, hissued⟩
  push_ok {handle newer state after} element h hpush := by
    have hhonored := contract.push h.1.states h.2 element
    rw [hpush] at hhonored
    exact ⟨h.1.trans hhonored.keeps, hhonored.keeps.handles _ h.2, hhonored.result rfl⟩
  push_error {handle state after error} element h hpush := by
    have hhonored := contract.push h.1.states h.2 element
    rw [hpush] at hhonored
    exact ⟨h.1.trans hhonored.keeps, hhonored.keeps.handles _ h.2⟩
  read {handle state} h := by
    have hkeeps := (contract.read h.1.states h.2).keeps
    exact ⟨h.1.trans hkeeps, hkeeps.handles _ h.2⟩
  retire_one {handle state} h := h.1.trans (contract.retire h.1.states h.2).keeps
  retire_older {older newer state} h := by
    have hkeeps := (contract.retire h.1.states h.2.1).keeps
    exact ⟨h.1.trans hkeeps, hkeeps.handles _ h.2.2⟩

theorem notes (start : σ) :
    (contract.invariant start).Notes fun error _ ↦ contract.errors error where
  push {handle state after error} element h hpush := by
    have hhonored := contract.push h.1.states h.2 element
    exact hhonored.error (congrArg Prod.fst hpush)
  read {handle state after error} h hread :=
    (contract.read h.1.states h.2).error (congrArg Prod.fst hread)
  retire_one {handle state after error} h hretire :=
    (contract.retire h.1.states h.2).error (congrArg Prod.fst hretire)
  retire_older {older newer state after error} h hretire :=
    (contract.retire h.1.states h.2.1).error (congrArg Prod.fst hretire)
  abandon _ hnoted := hnoted

theorem run (workload : Workload) (hstate : contract.states state) :
    contract.Honored (fun _ _ ↦ True) state (workload.run adapter state) where
  keeps := (contract.invariant state).run (.refl hstate) workload
  result _ := trivial
  error herror := (contract.notes state).run (.refl hstate) (Prod.ext herror rfl)

theorem materialize (workload : Workload) (hstate : contract.states state) :
    contract.Honored (fun _ _ ↦ True) state (workload.materialize adapter state) where
  keeps := (contract.invariant state).materialize (.refl hstate) workload
  result _ := trivial
  error herror := (contract.notes state).materialize (.refl hstate) (Prod.ext herror rfl)

/-! ## Sessions -/

/-- A session in a good state with good handles in its places. -/
structure Admits (session : Session σ η) : Prop where
  states : contract.states session.state
  handles {place : Nat} {handle : η} : session.handle? place = some handle →
    contract.handles session.state handle

variable {contract} {session : Session σ η}

theorem Admits.after (h : contract.Admits session) {state : σ}
    (hkeeps : contract.Keeps session.state state) : contract.Admits { session with state } where
  states := hkeeps.states
  handles hplace := hkeeps.handles _ (h.handles hplace)

theorem Admits.issue (h : contract.Admits session) {handle : η}
    (hhandle : contract.handles session.state handle) :
    contract.Admits (session.issue handle).2 where
  states := h.states
  handles {place other} hplace := by
    simp only [Session.handle?, Session.issue, Array.getElem?_push] at hplace
    split at hplace
    · obtain rfl : handle = other := by simpa using hplace
      exact hhandle
    · exact h.handles hplace

theorem Admits.vacate (h : contract.Admits session) (place : Nat) :
    contract.Admits { session with handles := session.handles.setIfInBounds place none } where
  states := h.states
  handles {other handle} hplace := by
    simp only [Session.handle?, Array.getElem?_setIfInBounds] at hplace
    split at hplace
    · split at hplace <;> cases hplace
    · exact h.handles hplace

variable (contract) in
/-- What a step of a session comes to: a session that is still admitted, and no error but those of
the terms. -/
structure Steps (outcome : SessionAnswer η × Session σ η) : Prop where
  admits : contract.Admits outcome.2
  error {error : AdapterError} : outcome.1 = .failed error → contract.errors error

theorem Admits.conclude {α : Type} (h : contract.Admits session) {answer : α → SessionAnswer η}
    (hanswer : ∀ value error, answer value ≠ .failed error) {good : σ → α → Prop}
    {outcome : Except AdapterError α × σ}
    (houtcome : contract.Honored good session.state outcome) :
    contract.Steps (session.conclude answer outcome) := by
  have hafter := h.after houtcome.keeps
  rcases outcome with ⟨error | value, state⟩
  · refine ⟨hafter, fun hfailed ↦ ?_⟩
    cases hfailed
    exact houtcome.error rfl
  · exact ⟨hafter, fun hfailed ↦ absurd hfailed (hanswer value _)⟩

theorem Admits.issueFrom (h : contract.Admits session) {outcome : Except AdapterError η × σ}
    (houtcome : contract.Honored contract.handles session.state outcome) :
    contract.Steps (session.issueFrom outcome) := by
  have hafter := h.after houtcome.keeps
  rcases outcome with ⟨error | handle, state⟩
  · refine ⟨hafter, fun hfailed ↦ ?_⟩
    cases hfailed
    exact houtcome.error rfl
  · exact ⟨hafter.issue (houtcome.result rfl), nofun⟩

theorem Admits.withHandle (h : contract.Admits session) (place : Nat)
    {act : η → SessionAnswer η × Session σ η}
    (hact : ∀ handle, contract.handles session.state handle → contract.Steps (act handle)) :
    contract.Steps (session.withHandle place act) := by
  unfold Session.withHandle
  split
  next handle hplace => exact hact handle (h.handles hplace)
  next => exact ⟨h, nofun⟩

theorem Admits.step (h : contract.Admits session) (step : SessionStep) :
    contract.Steps (session.step adapter step) := by
  cases step with
  | empty =>
    obtain ⟨hkeeps, hissued⟩ := contract.empty h.states
    exact ⟨(h.after hkeeps).issue hissued, nofun⟩
  | push place element =>
    exact h.withHandle place fun handle hhandle ↦
      h.issueFrom (contract.push h.states hhandle element)
  | copy place => exact h.withHandle place fun handle hhandle ↦ ⟨h.issue hhandle, nofun⟩
  | release place =>
    exact h.withHandle place fun handle hhandle ↦
      (h.vacate place).conclude nofun (contract.release h.states hhandle)
  | read place =>
    exact h.withHandle place fun handle hhandle ↦
      h.conclude nofun (contract.read h.states hhandle)
  | run workload => exact h.conclude nofun (contract.run workload h.states)
  | build workload => exact h.conclude nofun (contract.materialize workload h.states)
  | fits workload => exact ⟨h, nofun⟩

/-- A session keeps the terms all the way. -/
theorem Admits.run (h : contract.Admits session) (steps : List SessionStep) :
    contract.Admits (Session.run adapter steps session).2 ∧
      ∀ error, .failed error ∈ (Session.run adapter steps session).1 → contract.errors error := by
  induction steps generalizing session with
  | nil => exact ⟨h, by simp [Session.run]⟩
  | cons step steps ih =>
    obtain ⟨hnext, herror⟩ := h.step step
    obtain ⟨hlast, herrors⟩ := ih hnext
    refine ⟨hlast, fun error hmem ↦ ?_⟩
    rcases List.mem_cons.mp hmem with hfirst | hlater
    · exact herror hfirst.symm
    · exact herrors error hlater

end Contract

end PushBench
