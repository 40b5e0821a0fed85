import PushBench.Adapter.Session
import PushBench.Proofs.Adapter.Simulation
import Mathlib.Data.Option.Basic

/-!
# Sessions with adapters that simulate each other

A session hands out places for handles and lets the client keep second references, so its steps can
use any handle at any time, also one that was given back. Sessions with two adapters that simulate
each other give the same answers, up to how the handles are written.
-/

namespace PushBench

theorem optionRel_some_left {α β : Type} {corresponds : α → β → Prop} {a : α} {b : Option β}
    (h : Option.Rel corresponds (some a) b) : ∃ b', b = some b' ∧ corresponds a b' := by
  cases h with
  | some hab => exact ⟨_, rfl, hab⟩

theorem optionRel_mono {α β : Type} {corresponds corresponds' : α → β → Prop}
    (himp : ∀ a b, corresponds a b → corresponds' a b) {a : Option α} {b : Option β}
    (h : Option.Rel corresponds a b) : Option.Rel corresponds' a b := by
  cases h with
  | none => exact .none
  | some hab => exact .some (himp _ _ hab)

namespace Simulation

variable {σ τ η θ γ : Type} {left : Adapter σ η} {right : Adapter τ θ}
  (simulation : Simulation left right)

/-- Two sessions that have corresponding handles in the same places. -/
structure SessionsAgree (session : Session σ η) (session' : Session τ θ) : Prop where
  states : simulation.states session.state session'.state
  size_eq : session.handles.size = session'.handles.size
  handle? (place : Nat) : Option.Rel (simulation.handles session.state session'.state)
    (session.handle? place) (session'.handle? place)

variable {simulation} {session : Session σ η} {session' : Session τ θ}

theorem SessionsAgree.after (h : simulation.SessionsAgree session session') {state : σ} {state' : τ}
    (hkeeps : simulation.Keeps session.state session'.state state state') :
    simulation.SessionsAgree { session with state } { session' with state := state' } where
  states := hkeeps.states
  size_eq := h.size_eq
  handle? place := optionRel_mono hkeeps.handles (h.handle? place)

theorem SessionsAgree.issue (h : simulation.SessionsAgree session session') {handle : η}
    {handle' : θ} (hhandle : simulation.handles session.state session'.state handle handle') :
    simulation.SessionsAgree (session.issue handle).2 (session'.issue handle').2 where
  states := h.states
  size_eq := by simp [Session.issue, h.size_eq]
  handle? place := by
    have hplace := h.handle? place
    simp only [Session.handle?, Session.issue, Array.getElem?_push, h.size_eq] at hplace ⊢
    split
    · exact .some hhandle
    · exact hplace

theorem SessionsAgree.vacate (h : simulation.SessionsAgree session session') (place : Nat) :
    simulation.SessionsAgree
      { session with handles := session.handles.setIfInBounds place none }
      { session' with handles := session'.handles.setIfInBounds place none } where
  states := h.states
  size_eq := by simp [h.size_eq]
  handle? other := by
    have hother := h.handle? other
    simp only [Session.handle?, Array.getElem?_setIfInBounds, h.size_eq] at hother ⊢
    split
    · split
      · exact .none
      · exact .none
    · exact hother

/-- The steps that any simulation covers. Whether a workload fits depends on the declared limit,
which is no operation. -/
def Covers (left : Adapter σ η) (right : Adapter τ θ) : SessionStep → Prop
  | .fits _ => left.maxLen = right.maxLen
  | _ => True

variable {viewLeft : η → γ} {viewRight : θ → γ}

/-- Two answers that look alike, and sessions that still agree. -/
def StepsAgree (simulation : Simulation left right) (viewLeft : η → γ) (viewRight : θ → γ)
    (outcome : SessionAnswer η × Session σ η) (outcome' : SessionAnswer θ × Session τ θ) : Prop :=
  outcome.1.map viewLeft = outcome'.1.map viewRight ∧
    simulation.SessionsAgree outcome.2 outcome'.2

theorem SessionsAgree.conclude {α : Type} (h : simulation.SessionsAgree session session')
    {answer : α → SessionAnswer η} {answer' : α → SessionAnswer θ}
    (hanswer : ∀ a, (answer a).map viewLeft = (answer' a).map viewRight)
    {outcome : Except AdapterError α × σ} {outcome' : Except AdapterError α × τ}
    (hagree : simulation.Agree (fun _ _ ↦ Eq) session.state session'.state outcome outcome') :
    simulation.StepsAgree viewLeft viewRight (session.conclude answer outcome)
      (session'.conclude answer' outcome') := by
  obtain ⟨hkeeps, hanswers⟩ := hagree
  have hafter := h.after hkeeps
  rcases outcome with ⟨result, state⟩
  rcases outcome' with ⟨result', state'⟩
  cases hanswers with
  | error error => exact ⟨rfl, hafter⟩
  | ok hresult =>
    subst hresult
    exact ⟨hanswer _, hafter⟩

theorem SessionsAgree.issueFrom (h : simulation.SessionsAgree session session')
    (hview : ∀ {state state' handle handle'}, simulation.handles state state' handle handle' →
      viewLeft handle = viewRight handle')
    {outcome : Except AdapterError η × σ} {outcome' : Except AdapterError θ × τ}
    (hagree : simulation.Agree simulation.handles session.state session'.state outcome outcome') :
    simulation.StepsAgree viewLeft viewRight (session.issueFrom outcome)
      (session'.issueFrom outcome') := by
  obtain ⟨hkeeps, hanswers⟩ := hagree
  have hafter := h.after hkeeps
  rcases outcome with ⟨result, state⟩
  rcases outcome' with ⟨result', state'⟩
  cases hanswers with
  | error error => exact ⟨rfl, hafter⟩
  | ok hissued =>
    refine ⟨?_, hafter.issue hissued⟩
    simp only [Session.issueFrom, Session.issue, SessionAnswer.map, h.size_eq, hview hissued]

theorem SessionsAgree.withHandle (h : simulation.SessionsAgree session session') (place : Nat)
    {act : η → SessionAnswer η × Session σ η} {act' : θ → SessionAnswer θ × Session τ θ}
    (hact : ∀ handle handle',
      simulation.handles session.state session'.state handle handle' →
        simulation.StepsAgree viewLeft viewRight (act handle) (act' handle')) :
    simulation.StepsAgree viewLeft viewRight (session.withHandle place act)
      (session'.withHandle place act') := by
  have hplace := h.handle? place
  unfold Session.withHandle
  generalize session.handle? place = handle at hplace
  generalize session'.handle? place = handle' at hplace
  cases hplace with
  | none => exact ⟨rfl, h⟩
  | some hhandle => exact hact _ _ hhandle

theorem SessionsAgree.step (h : simulation.SessionsAgree session session')
    (hview : ∀ {state state' handle handle'}, simulation.handles state state' handle handle' →
      viewLeft handle = viewRight handle')
    (step : SessionStep) (hcovered : Covers left right step) :
    simulation.StepsAgree viewLeft viewRight (session.step left step)
      (session'.step right step) := by
  cases step with
  | empty =>
    obtain ⟨hkeeps, hissued⟩ := simulation.empty h.states
    refine ⟨?_, (h.after hkeeps).issue hissued⟩
    simp only [Session.step, Session.issue, SessionAnswer.map, h.size_eq, hview hissued]
  | push place element =>
    exact h.withHandle place fun handle handle' hhandle ↦
      h.issueFrom hview (simulation.push h.states hhandle element)
  | copy place =>
    refine h.withHandle place fun handle handle' hhandle ↦ ⟨?_, h.issue hhandle⟩
    simp only [Session.issue, SessionAnswer.map, h.size_eq, hview hhandle]
  | release place =>
    exact h.withHandle place fun handle handle' hhandle ↦
      (h.vacate place).conclude (fun _ ↦ rfl) (simulation.release h.states hhandle)
  | read place =>
    exact h.withHandle place fun handle handle' hhandle ↦
      h.conclude (fun _ ↦ rfl) (simulation.read h.states hhandle)
  | run workload => exact h.conclude (fun _ ↦ rfl) (simulation.run workload h.states)
  | build workload => exact h.conclude (fun _ ↦ rfl) (simulation.materialize workload h.states)
  | fits workload =>
    have hlimit : left.maxLen = right.maxLen := hcovered
    refine ⟨?_, h⟩
    simp only [Session.step, SessionAnswer.map, Workload.fits, hlimit]

/-- Sessions with adapters that simulate each other answer alike all the way. -/
theorem SessionsAgree.run (h : simulation.SessionsAgree session session') (viewLeft : η → γ)
    (viewRight : θ → γ)
    (hview : ∀ {state state' handle handle'}, simulation.handles state state' handle handle' →
      viewLeft handle = viewRight handle')
    (steps : List SessionStep) (hcovered : ∀ step ∈ steps, Covers left right step) :
    (Session.run left steps session).1.map (SessionAnswer.map viewLeft) =
        (Session.run right steps session').1.map (SessionAnswer.map viewRight) ∧
      simulation.SessionsAgree (Session.run left steps session).2
        (Session.run right steps session').2 := by
  induction steps generalizing session session' with
  | nil => exact ⟨rfl, h⟩
  | cons step steps ih =>
    obtain ⟨hanswer, hnext⟩ := h.step hview step (hcovered step List.mem_cons_self)
    obtain ⟨hanswers, hlast⟩ :=
      ih hnext fun other hother ↦ hcovered other (List.mem_cons_of_mem step hother)
    refine ⟨?_, hlast⟩
    simp only [Session.run, List.map_cons, hanswer, hanswers]

end Simulation

end PushBench
