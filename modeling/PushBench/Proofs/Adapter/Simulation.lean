import PushBench.Workload

/-!
# Simulations between adapters

Two adapters with states and handles of different types simulate each other if their states stay
related, handles that correspond keep corresponding, and every operation answers alike on
corresponding handles. Whatever drives adapters by their operations alone, such as the append
workload, then cannot tell them apart.
-/

namespace PushBench

/-- Answers of two operations that fail with the same error or succeed with corresponding
results. -/
inductive AnswersAgree {α β : Type} (corresponds : α → β → Prop) :
    Except AdapterError α → Except AdapterError β → Prop where
  | ok {result : α} {result' : β} (hresult : corresponds result result') :
    AnswersAgree corresponds (.ok result) (.ok result')
  | error (error : AdapterError) : AnswersAgree corresponds (.error error) (.error error)

theorem AnswersAgree.eq {α : Type} {answer answer' : Except AdapterError α}
    (h : AnswersAgree Eq answer answer') : answer = answer' := by
  cases h with
  | ok hresult => rw [hresult]
  | error error => rfl

theorem AnswersAgree.of_eq {α : Type} {answer answer' : Except AdapterError α}
    (h : answer = answer') : AnswersAgree Eq answer answer' := by
  subst h
  cases answer with
  | ok result => exact .ok rfl
  | error error => exact .error error

theorem AnswersAgree.trans {α β γ : Type} {upper : α → β → Prop} {lower : β → γ → Prop}
    {corresponds : α → γ → Prop} {answer : Except AdapterError α} {between : Except AdapterError β}
    {answer' : Except AdapterError γ} (h : AnswersAgree upper answer between)
    (h' : AnswersAgree lower between answer')
    (hcorresponds : ∀ a b c, upper a b → lower b c → corresponds a c) :
    AnswersAgree corresponds answer answer' := by
  cases h with
  | ok hresult =>
    cases h' with
    | ok hresult' => exact .ok (hcorresponds _ _ _ hresult hresult')
  | error error =>
    cases h' with
    | error error => exact .error error

/-- How two adapters correspond: which states are related, and which handles stand for each other in
given states. -/
structure Correspondence (σ τ η θ : Type) where
  states : σ → τ → Prop
  handles : σ → τ → η → θ → Prop

namespace Correspondence

variable {σ τ η θ α β : Type} (correspondence : Correspondence σ τ η θ)

/-- The step from one pair of states to another leads to related states, and handles that stood for
each other still do. -/
structure Keeps (state : σ) (state' : τ) (after : σ) (after' : τ) : Prop where
  states : correspondence.states after after'
  handles (handle : η) (handle' : θ) : correspondence.handles state state' handle handle' →
    correspondence.handles after after' handle handle'

variable {correspondence}

theorem Keeps.refl {state : σ} {state' : τ} (h : correspondence.states state state') :
    correspondence.Keeps state state' state state' :=
  ⟨h, fun _ _ hhandle ↦ hhandle⟩

theorem Keeps.trans {state between after : σ} {state' between' after' : τ}
    (h : correspondence.Keeps state state' between between')
    (hnext : correspondence.Keeps between between' after after') :
    correspondence.Keeps state state' after after' :=
  ⟨hnext.states, fun handle handle' hhandle ↦
    hnext.handles handle handle' (h.handles handle handle' hhandle)⟩

variable (correspondence)

/-- Two outcomes agree: the states stay related, and so do the answers. -/
structure Agree (corresponds : σ → τ → α → β → Prop) (state : σ) (state' : τ)
    (outcome : Except AdapterError α × σ) (outcome' : Except AdapterError β × τ) : Prop where
  keeps : correspondence.Keeps state state' outcome.2 outcome'.2
  answers : AnswersAgree (corresponds outcome.2 outcome'.2) outcome.1 outcome'.1

end Correspondence

/-- Two adapters that no operation tells apart. -/
structure Simulation {σ τ η θ : Type} (left : Adapter σ η) (right : Adapter τ θ) extends
    Correspondence σ τ η θ where
  kind_eq : left.kind = right.kind
  empty {state : σ} {state' : τ} (hstate : states state state') :
    toCorrespondence.Keeps state state' (left.empty state).2 (right.empty state').2 ∧
      handles (left.empty state).2 (right.empty state').2 (left.empty state).1
        (right.empty state').1
  push {state : σ} {state' : τ} {handle : η} {handle' : θ} (hstate : states state state')
    (hhandle : handles state state' handle handle') (element : Element) :
    toCorrespondence.Agree handles state state' (left.push handle element state)
      (right.push handle' element state')
  release {state : σ} {state' : τ} {handle : η} {handle' : θ} (hstate : states state state')
    (hhandle : handles state state' handle handle') :
    toCorrespondence.Agree (fun _ _ ↦ Eq) state state' (left.release handle state)
      (right.release handle' state')
  read {state : σ} {state' : τ} {handle : η} {handle' : θ} (hstate : states state state')
    (hhandle : handles state state' handle handle') :
    toCorrespondence.Agree (fun _ _ ↦ Eq) state state' (left.read handle state)
      (right.read handle' state')

namespace Simulation

variable {σ τ η θ : Type} {left : Adapter σ η} {right : Adapter τ θ}
  (simulation : Simulation left right) {state : σ} {state' : τ}

theorem retire {handle : η} {handle' : θ} (hstate : simulation.states state state')
    (hhandle : simulation.handles state state' handle handle') :
    simulation.Agree (fun _ _ ↦ Eq) state state' (left.retire handle state)
      (right.retire handle' state') := by
  unfold Adapter.retire
  rw [simulation.kind_eq]
  split
  · exact simulation.release hstate hhandle
  · exact ⟨.refl hstate, .ok rfl⟩

theorem pushFrom {current : η} {current' : θ} (hstate : simulation.states state state')
    (hcurrent : simulation.handles state state' current current') (next : Element) (count : Nat) :
    simulation.Agree simulation.handles state state' (left.pushFrom current next count state)
      (right.pushFrom current' next count state') := by
  induction count generalizing state state' current current' next with
  | zero => exact ⟨.refl hstate, .ok hcurrent⟩
  | succ count ih =>
    have hpush := simulation.push hstate hcurrent next
    simp only [Adapter.pushFrom]
    rcases hleft : left.push current next state with ⟨answer, pushed⟩
    rcases hright : right.push current' next state' with ⟨answer', pushed'⟩
    rw [hleft, hright] at hpush
    obtain ⟨hkeeps, hanswers⟩ := hpush
    have hretire := simulation.retire hkeeps.states (hkeeps.handles _ _ hcurrent)
    cases hanswers with
    | error error => exact ⟨hkeeps.trans hretire.keeps, .error error⟩
    | @ok newer newer' hnewer =>
      simp only at hretire ⊢
      rcases hleft : left.retire current pushed with ⟨answer, retired⟩
      rcases hright : right.retire current' pushed' with ⟨answer', retired'⟩
      rw [hleft, hright] at hretire
      obtain ⟨hkeeps', hanswers⟩ := hretire
      have hnewer' := hkeeps'.handles _ _ hnewer
      cases hanswers with
      | error error =>
        have habandon := simulation.retire hkeeps'.states hnewer'
        exact ⟨(hkeeps.trans hkeeps').trans habandon.keeps, .error error⟩
      | ok hunit =>
        have hrest := ih hkeeps'.states hnewer' (next + 1)
        exact ⟨(hkeeps.trans hkeeps').trans hrest.keeps, hrest.answers⟩

theorem build (workload : Workload) (hstate : simulation.states state state') :
    simulation.Agree simulation.handles state state' (workload.build left state)
      (workload.build right state') := by
  obtain ⟨hkeeps, hfirst⟩ := simulation.empty hstate
  have hpushes := simulation.pushFrom hkeeps.states hfirst 0 workload.len
  exact ⟨hkeeps.trans hpushes.keeps, hpushes.answers⟩

theorem run (workload : Workload) (hstate : simulation.states state state') :
    simulation.Agree (fun _ _ ↦ Eq) state state' (workload.run left state)
      (workload.run right state') := by
  have hbuild := simulation.build workload hstate
  unfold Workload.run
  rcases hleft : workload.build left state with ⟨answer, built⟩
  rcases hright : workload.build right state' with ⟨answer', built'⟩
  rw [hleft, hright] at hbuild
  obtain ⟨hkeeps, hanswers⟩ := hbuild
  cases hanswers with
  | error error => exact ⟨hkeeps, .error error⟩
  | ok hlast =>
    have hretire := simulation.retire hkeeps.states hlast
    exact ⟨hkeeps.trans hretire.keeps, hretire.answers⟩

theorem materialize (workload : Workload) (hstate : simulation.states state state') :
    simulation.Agree (fun _ _ ↦ Eq) state state' (workload.materialize left state)
      (workload.materialize right state') := by
  have hbuild := simulation.build workload hstate
  unfold Workload.materialize
  rcases hleft : workload.build left state with ⟨answer, built⟩
  rcases hright : workload.build right state' with ⟨answer', built'⟩
  rw [hleft, hright] at hbuild
  obtain ⟨hkeeps, hanswers⟩ := hbuild
  cases hanswers with
  | error error => exact ⟨hkeeps, .error error⟩
  | @ok last last' hlast =>
    have hread := simulation.read hkeeps.states hlast
    rcases hleft : left.read last built with ⟨contents, seen⟩
    rcases hright : right.read last' built' with ⟨contents', seen'⟩
    rw [hleft, hright] at hread
    simp only [hleft, hright]
    obtain ⟨hkeeps', hcontents⟩ := hread
    have hretire := simulation.retire hkeeps'.states (hkeeps'.handles _ _ hlast)
    rcases hleft : left.retire last seen with ⟨retired, after⟩
    rcases hright : right.retire last' seen' with ⟨retired', after'⟩
    rw [hleft, hright] at hretire
    obtain ⟨hkeeps'', hretired⟩ := hretire
    have hall := (hkeeps.trans hkeeps').trans hkeeps''
    -- The reading error stands before the error of giving the version back.
    cases hcontents with
    | error error => exact ⟨hall, .error error⟩
    | ok hcontents =>
      cases hretired with
      | error error => exact ⟨hall, .error error⟩
      | ok hunit => exact ⟨hall, .ok hcontents⟩

/-! ## Composition -/

/-- An adapter cannot be told from itself. -/
def refl (adapter : Adapter σ η) : Simulation adapter adapter where
  states := Eq
  handles _ _ := Eq
  kind_eq := rfl
  empty hstate := by
    subst hstate
    exact ⟨⟨rfl, fun _ _ ↦ id⟩, rfl⟩
  push hstate hhandle _ := by
    subst hstate hhandle
    exact ⟨⟨rfl, fun _ _ ↦ id⟩, .of_eq rfl⟩
  release hstate hhandle := by
    subst hstate hhandle
    exact ⟨⟨rfl, fun _ _ ↦ id⟩, .of_eq rfl⟩
  read hstate hhandle := by
    subst hstate hhandle
    exact ⟨⟨rfl, fun _ _ ↦ id⟩, .of_eq rfl⟩

variable {υ ζ : Type} {last : Adapter υ ζ} (upper : Simulation left right)
  (lower : Simulation right last) {handles : σ → υ → η → ζ → Prop}

/-- Which states correspond through states of an adapter in between. Which handles do has to be said
without them, since there can be several such states. -/
def through (handles : σ → υ → η → ζ → Prop) : Correspondence σ υ η ζ where
  states state state' := ∃ between, upper.states state between ∧ lower.states between state'
  handles

/-- Handles correspond if they do through handles of the adapter in between. -/
def Composes (handles : σ → υ → η → ζ → Prop) : Prop :=
  ∀ {state between state'}, upper.states state between → lower.states between state' →
    ∀ handle handle', handles state state' handle handle' ↔
      ∃ middle, upper.handles state between handle middle ∧
        lower.handles between state' middle handle'

variable {upper lower} {between : τ} {state'' : υ}

theorem Composes.keeps (hcomposes : upper.Composes lower handles)
    (hupper : upper.states state between) (hlower : lower.states between state'') {after : σ}
    {after' : τ} {after'' : υ} (hkeeps : upper.Keeps state between after after')
    (hkeeps' : lower.Keeps between state'' after' after'') :
    (upper.through lower handles).Keeps state state'' after after'' where
  states := ⟨after', hkeeps.states, hkeeps'.states⟩
  handles handle handle' hhandle := by
    obtain ⟨middle, hfirst, hsecond⟩ := (hcomposes hupper hlower handle handle').mp hhandle
    exact (hcomposes hkeeps.states hkeeps'.states handle handle').mpr
      ⟨middle, hkeeps.handles _ _ hfirst, hkeeps'.handles _ _ hsecond⟩

theorem Composes.agree {α β γ : Type} (hcomposes : upper.Composes lower handles)
    (hupper : upper.states state between) (hlower : lower.states between state'')
    {first : σ → τ → α → β → Prop} {second : τ → υ → β → γ → Prop} {both : σ → υ → α → γ → Prop}
    {outcome : Except AdapterError α × σ} {outcome' : Except AdapterError β × τ}
    {outcome'' : Except AdapterError γ × υ}
    (hagree : upper.Agree first state between outcome outcome')
    (hagree' : lower.Agree second between state'' outcome' outcome'')
    (hboth : ∀ {a b c}, upper.states a b → lower.states b c → ∀ x y z, first a b x y →
      second b c y z → both a c x z) :
    (upper.through lower handles).Agree both state state'' outcome outcome'' where
  keeps := hcomposes.keeps hupper hlower hagree.keeps hagree'.keeps
  answers := hagree.answers.trans hagree'.answers (hboth hagree.keeps.states hagree'.keeps.states)

/-- Adapters cannot be told apart if both cannot be told from one in between. -/
def trans (upper : Simulation left right) (lower : Simulation right last)
    (handles : σ → υ → η → ζ → Prop) (hcomposes : upper.Composes lower handles) :
    Simulation left last where
  toCorrespondence := upper.through lower handles
  kind_eq := upper.kind_eq.trans lower.kind_eq
  empty hstate := by
    obtain ⟨between, hupper, hlower⟩ := hstate
    obtain ⟨hkeeps, hissued⟩ := upper.empty hupper
    obtain ⟨hkeeps', hissued'⟩ := lower.empty hlower
    exact ⟨hcomposes.keeps hupper hlower hkeeps hkeeps',
      (hcomposes hkeeps.states hkeeps'.states _ _).mpr ⟨_, hissued, hissued'⟩⟩
  push hstate hhandle element := by
    obtain ⟨between, hupper, hlower⟩ := hstate
    obtain ⟨middle, hfirst, hsecond⟩ := (hcomposes hupper hlower _ _).mp hhandle
    exact hcomposes.agree hupper hlower (upper.push hupper hfirst element)
      (lower.push hlower hsecond element) fun hupper hlower _ middle _ hfirst hsecond ↦
        (hcomposes hupper hlower _ _).mpr ⟨middle, hfirst, hsecond⟩
  release hstate hhandle := by
    obtain ⟨between, hupper, hlower⟩ := hstate
    obtain ⟨middle, hfirst, hsecond⟩ := (hcomposes hupper hlower _ _).mp hhandle
    exact hcomposes.agree hupper hlower (upper.release hupper hfirst) (lower.release hlower hsecond)
      fun _ _ _ _ _ ↦ Eq.trans
  read hstate hhandle := by
    obtain ⟨between, hupper, hlower⟩ := hstate
    obtain ⟨middle, hfirst, hsecond⟩ := (hcomposes hupper hlower _ _).mp hhandle
    exact hcomposes.agree hupper hlower (upper.read hupper hfirst) (lower.read hlower hsecond)
      fun _ _ _ _ _ ↦ Eq.trans

end Simulation

end PushBench
