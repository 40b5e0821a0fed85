import PushBench.Proofs.Adapter.Counting
import PushBench.Proofs.Adapter.Trace

/-!
# Nested stores

A released store over handles that themselves have to be given back: counted handles, or another
released store, at any depth. Only the outermost store is driven. The stores below it are only ever
given handles that were not given back, and keep in step with it: every one of them is the ledger
of the same versions under the same numbers.
-/

namespace PushBench

variable {σ τ η θ : Type}

/-- An adapter that answers no misuse of handles, whatever it is given. -/
structure Adapter.Harmless (adapter : Adapter τ θ) : Prop where
  push (handle : θ) (element : Element) (state : τ) (violation : ProtocolViolation) :
    (adapter.push handle element state).1 ≠ .error (.protocol violation)
  release (handle : θ) (state : τ) (violation : ProtocolViolation) :
    (adapter.release handle state).1 ≠ .error (.protocol violation)
  read (handle : θ) (state : τ) (violation : ProtocolViolation) :
    (adapter.read handle state).1 ≠ .error (.protocol violation)

theorem Adapter.failing_harmless (name : String) (failPushAt : Option Element) :
    (Adapter.failing name failPushAt).Harmless where
  push handle element state violation := by
    simp only [Adapter.failing]
    split <;> nofun
  release _ _ _ := nofun
  read _ _ _ := nofun

namespace Adapter.Harmless

variable {ground : Adapter τ θ} {ledger : VersionLedger τ θ} {number : Nat} {version : θ}

theorem ledger_push (h : ground.Harmless) (hlive : ledger.version? number = some version)
    (element : Element) (violation : ProtocolViolation) :
    (ground.ledger.push number element ledger).1 ≠ .error (.protocol violation) := by
  have hpush := h.push version element ledger.inner violation
  simp only [Adapter.ledger, hlive]
  split
  next error state hfailed =>
    intro hviolation
    cases hviolation
    exact hpush (congrArg Prod.fst hfailed)
  next =>
    intro hviolation
    cases hviolation

theorem ledger_release (h : ground.Harmless) (hlive : ledger.version? number = some version)
    (violation : ProtocolViolation) :
    (ground.ledger.release number ledger).1 ≠ .error (.protocol violation) := by
  simp only [Adapter.ledger, hlive]
  exact h.release version ledger.inner violation

theorem ledger_read (h : ground.Harmless) (hlive : ledger.version? number = some version)
    (violation : ProtocolViolation) :
    (ground.ledger.read number ledger).1 ≠ .error (.protocol violation) := by
  simp only [Adapter.ledger, hlive]
  exact h.read version ledger.inner violation

end Adapter.Harmless

/-- An adapter that follows the ledger of the versions of another one, as long as it is given
handles that were not given back. -/
structure InStep (adapter : Adapter σ η) (ground : Adapter τ θ) extends
    Correspondence σ (VersionLedger τ θ) η Nat where
  empty {state : σ} {ledger : VersionLedger τ θ} (hstate : states state ledger) :
    toCorrespondence.Keeps state ledger (adapter.empty state).2 (ground.ledger.empty ledger).2 ∧
      handles (adapter.empty state).2 (ground.ledger.empty ledger).2 (adapter.empty state).1
        (ground.ledger.empty ledger).1
  push {state : σ} {ledger : VersionLedger τ θ} {handle : η} {number : Nat}
    {version : θ} (hstate : states state ledger) (hhandle : handles state ledger handle number)
    (hlive : ledger.version? number = some version) (element : Element) :
    toCorrespondence.Agree handles state ledger (adapter.push handle element state)
      (ground.ledger.push number element ledger)
  release {state : σ} {ledger : VersionLedger τ θ} {handle : η} {number : Nat}
    {version : θ} (hstate : states state ledger) (hhandle : handles state ledger handle number)
    (hlive : ledger.version? number = some version) :
    toCorrespondence.Agree (fun _ _ ↦ Eq) state ledger (adapter.release handle state)
      (ground.ledger.release number ledger)
  read {state : σ} {ledger : VersionLedger τ θ} {handle : η} {number : Nat}
    {version : θ} (hstate : states state ledger) (hhandle : handles state ledger handle number)
    (hlive : ledger.version? number = some version) :
    toCorrespondence.Agree (fun _ _ ↦ Eq) state ledger (adapter.read handle state)
      (ground.ledger.read number ledger)

/-- An adapter that cannot be told from a ledger is in step with it. -/
def Simulation.inStep {adapter : Adapter σ η} {ground : Adapter τ θ}
    (simulation : Simulation adapter ground.ledger) : InStep adapter ground where
  toCorrespondence := simulation.toCorrespondence
  empty := simulation.empty
  push hstate hhandle _ := simulation.push hstate hhandle
  release hstate hhandle _ := simulation.release hstate hhandle
  read hstate hhandle _ := simulation.read hstate hhandle

namespace InStep

variable {adapter : Adapter σ η} {ground : Adapter τ θ}

/-! ## A store over an adapter in step -/

/-- The ledger of an adapter in step has the numbers of the ledger that the adapter follows, and its
versions are handles of those numbers. -/
structure SameNumbers (inStep : InStep adapter ground) (upper : VersionLedger σ η)
    (lower : VersionLedger τ θ) : Prop where
  inner : inStep.states upper.inner lower
  length_eq : upper.stored.length = lower.stored.length
  returned_eq : upper.returned = lower.returned
  lt_of_mem_returned {number : Nat} : number ∈ upper.returned → number < upper.stored.length
  handles {number : Nat} {version : η} : upper.version? number = some version →
    inStep.handles upper.inner lower version number

variable {inStep : InStep adapter ground} {upper : VersionLedger σ η} {lower : VersionLedger τ θ}
  {number : Nat} {state : σ} {below : τ}

/-- A number stands for a version in both ledgers, or in none of them. -/
theorem SameNumbers.cases (h : inStep.SameNumbers upper lower) (number : Nat) :
    (upper.version? number = none ∧ lower.version? number = none) ∨
      ∃ version version', upper.version? number = some version ∧
        lower.version? number = some version' ∧
        inStep.handles upper.inner lower version number := by
  have hnone : upper.version? number = none ↔ lower.version? number = none := by
    unfold VersionLedger.version?
    rw [h.returned_eq]
    split
    · simp
    · simp only [List.getElem?_eq_none_iff, h.length_eq]
  cases hupper : upper.version? number with
  | none => exact .inl ⟨rfl, hnone.mp hupper⟩
  | some version =>
    cases hlower : lower.version? number with
    | none => cases hupper.symm.trans (hnone.mpr hlower)
    | some version' => exact .inr ⟨version, version', rfl, rfl, h.handles hupper⟩

theorem SameNumbers.outstanding_eq (h : inStep.SameNumbers upper lower) :
    upper.outstanding = lower.outstanding := by
  rw [VersionLedger.outstanding, VersionLedger.outstanding, h.length_eq, h.returned_eq]

/-- The adapter has taken a step that stored no version and gave none back. -/
theorem SameNumbers.stay (h : inStep.SameNumbers upper lower)
    (hkeeps : inStep.Keeps upper.inner lower state { lower with inner := below }) :
    inStep.SameNumbers { upper with inner := state } { lower with inner := below } where
  inner := hkeeps.states
  length_eq := h.length_eq
  returned_eq := h.returned_eq
  lt_of_mem_returned := h.lt_of_mem_returned
  handles hversion := hkeeps.handles _ _ (h.handles hversion)

/-- The adapter has made a new version. -/
theorem SameNumbers.enter (h : inStep.SameNumbers upper lower) {version : η} {version' : θ}
    (hkeeps : inStep.Keeps upper.inner lower state
      ({ lower with inner := below }.enter version').2)
    (hissued : inStep.handles state ({ lower with inner := below }.enter version').2 version
      ({ lower with inner := below }.enter version').1) :
    inStep.SameNumbers ({ upper with inner := state }.enter version).2
      ({ lower with inner := below }.enter version').2 where
  inner := hkeeps.states
  length_eq := by simp [VersionLedger.enter, h.length_eq]
  returned_eq := h.returned_eq
  lt_of_mem_returned hnumber := by
    have hlt := h.lt_of_mem_returned hnumber
    simp only [VersionLedger.enter, List.length_append]
    omega
  handles {number newer} hversion := by
    have hfresh : { upper with inner := state }.stored.length ∉
        { upper with inner := state }.returned :=
      fun hmem ↦ Nat.lt_irrefl _ (h.lt_of_mem_returned hmem)
    rw [VersionLedger.version?_enter_eq hfresh] at hversion
    split at hversion
    next hnumber =>
      cases hversion
      rw [hnumber, h.length_eq]
      exact hissued
    next => exact hkeeps.handles _ _ (h.handles hversion)

/-- The adapter was given a version back. -/
theorem SameNumbers.giveBack (h : inStep.SameNumbers upper lower) {version : η}
    (hnumber : upper.version? number = some version)
    (hkeeps : inStep.Keeps upper.inner lower state
      { lower with inner := below, returned := number :: lower.returned }) :
    inStep.SameNumbers { upper with inner := state, returned := number :: upper.returned }
      { lower with inner := below, returned := number :: lower.returned } where
  inner := hkeeps.states
  length_eq := h.length_eq
  returned_eq := congrArg _ h.returned_eq
  lt_of_mem_returned {other} hother := by
    rcases List.mem_cons.mp hother with rfl | hother
    · unfold VersionLedger.version? at hnumber
      split at hnumber
      · cases hnumber
      · exact (List.getElem?_eq_some_iff.mp hnumber).1
    · exact h.lt_of_mem_returned hother
  handles {other version} hversion := by
    have hreturned := VersionLedger.version?_returned { upper with inner := state } number other
    rw [hreturned] at hversion
    split at hversion
    · cases hversion
    · exact hkeeps.handles _ _ (h.handles hversion)

/-- The ledger of an adapter in step cannot be told from the ledger that the adapter follows. -/
def ledger (inStep : InStep adapter ground) : Simulation adapter.ledger ground.ledger where
  states := inStep.SameNumbers
  handles _ _ := Eq
  kind_eq := rfl
  empty {upper lower} h := by
    obtain ⟨hkeeps, hissued⟩ := inStep.empty h.inner
    exact ⟨⟨h.enter hkeeps hissued, fun _ _ ↦ id⟩, h.length_eq⟩
  push {upper lower number _} h hnumber element := by
    subst hnumber
    rcases h.cases number with ⟨hupper, hlower⟩ | ⟨version, version', hupper, hlower, hversion⟩
    · simp only [Adapter.ledger, hupper, hlower]
      exact ⟨⟨h, fun _ _ ↦ id⟩, .error _⟩
    · have hpush := inStep.push h.inner hversion hlower element
      simp only [Adapter.ledger, hupper, hlower] at hpush ⊢
      rcases hleft : adapter.push version element upper.inner with ⟨answer, state⟩
      rcases hright : ground.push version' element lower.inner with ⟨answer', below⟩
      rw [hleft, hright] at hpush
      obtain ⟨hkeeps, hanswers⟩ := hpush
      cases answer' with
      | error error =>
        cases hanswers with
        | error error => exact ⟨⟨h.stay hkeeps, fun _ _ ↦ id⟩, .error _⟩
      | ok newer' =>
        cases hanswers with
        | ok hissued => exact ⟨⟨h.enter hkeeps hissued, fun _ _ ↦ id⟩, .ok h.length_eq⟩
  release {upper lower number _} h hnumber := by
    subst hnumber
    rcases h.cases number with ⟨hupper, hlower⟩ | ⟨version, version', hupper, hlower, hversion⟩
    · simp only [Adapter.ledger, hupper, hlower]
      exact ⟨⟨h, fun _ _ ↦ id⟩, .error _⟩
    · obtain ⟨hkeeps, hanswers⟩ := inStep.release h.inner hversion hlower
      simp only [Adapter.ledger, hupper, hlower] at hkeeps hanswers ⊢
      exact ⟨⟨h.giveBack hupper hkeeps, fun _ _ ↦ id⟩, hanswers⟩
  read {upper lower number _} h hnumber := by
    subst hnumber
    rcases h.cases number with ⟨hupper, hlower⟩ | ⟨version, version', hupper, hlower, hversion⟩
    · simp only [Adapter.ledger, hupper, hlower]
      exact ⟨⟨h, fun _ _ ↦ id⟩, .error _⟩
    · obtain ⟨hkeeps, hanswers⟩ := inStep.read h.inner hversion hlower
      simp only [Adapter.ledger, hupper, hlower] at hkeeps hanswers ⊢
      exact ⟨⟨h.stay hkeeps, fun _ _ ↦ id⟩, hanswers⟩

variable {κ : Type → Type} [SlotStore κ]

/-- A handle of a store over an adapter in step stands for a number of the ledger: it is looked up
unless the number was given back. -/
structure StandsFor (store : ReleasedStore σ η κ) (lower : VersionLedger τ θ)
    (handle : ReleasedHandle) (number : Nat) : Prop where
  id_eq : handle.id = number
  lt_length : number < lower.stored.length
  lookup_iff : (store.lookup handle).isSome ↔ number ∉ lower.returned

theorem composes_standsFor [LawfulSlotStore κ] (inStep : InStep adapter ground) :
    (ReleasedStore.simulation κ adapter).Composes inStep.ledger
      (StandsFor : ReleasedStore σ η κ → VersionLedger τ θ → ReleasedHandle → Nat → Prop) := by
  intro store upper lower (hstore : store.Refines upper) (hsame : inStep.SameNumbers upper lower)
    handle number
  constructor
  · intro hhandle
    refine ⟨number, ⟨hhandle.id_eq, hsame.length_eq ▸ hhandle.lt_length, ?_⟩, rfl⟩
    have hlookup := hhandle.lookup_iff
    rw [← hsame.returned_eq] at hlookup
    cases hfound : store.lookup handle with
    | some version => rw [← hhandle.id_eq, hstore.version?_of_lookup hfound]
    | none =>
      have hreturned : number ∈ upper.returned := by simpa [hfound] using hlookup
      rw [VersionLedger.version?, if_pos hreturned]
  · rintro ⟨middle, hmeans, hnumber⟩
    have hmeans : store.Means upper handle number := hnumber ▸ hmeans
    refine ⟨hmeans.id_eq, hsame.length_eq ▸ hmeans.lt_length, ?_⟩
    rw [hmeans.lookup_eq, VersionLedger.version?, hsame.returned_eq]
    by_cases hreturned : number ∈ lower.returned
    · simp [hreturned]
    · simp [hreturned, hmeans.lt_length]

/-- A released store over an adapter in step cannot be told from the ledger that the adapter
follows. -/
def store (κ : Type → Type) [SlotStore κ] [LawfulSlotStore κ] (inStep : InStep adapter ground) :
    Simulation (adapter.releasedIn κ) ground.ledger :=
  (ReleasedStore.simulation κ adapter).trans inStep.ledger StandsFor inStep.composes_standsFor

variable [LawfulSlotStore κ]

theorem store_start {start : σ} {ground' : τ} (h : inStep.states start (.start ground')) :
    (inStep.store κ).states (.ofInner start) (.start ground') :=
  ⟨.start start, ReleasedStore.refines_ofInner start, h, rfl, rfl, nofun, nofun⟩

/-! ## What is written down about an adapter in step -/

/-- No call that was written down answered a misuse of handles. -/
def Quiet (calls : List AdapterCall) : Prop :=
  ∀ call ∈ calls, ∀ violation, call.error? ≠ some (.protocol violation)

theorem Quiet.concat {calls : List AdapterCall} (h : Quiet calls) {call : AdapterCall}
    (hcall : ∀ violation, call.error? ≠ some (.protocol violation)) : Quiet (calls ++ [call]) := by
  intro other hother
  rcases List.mem_append.mp hother with hold | hnew
  · exact h other hold
  · exact List.mem_singleton.mp hnew ▸ hcall

/-- An adapter in step whose calls are written down is in step, and its calls are quiet. -/
def recording (inStep : InStep adapter ground) (hharmless : ground.Harmless) :
    InStep adapter.recording ground where
  states recorded lower := inStep.states recorded.state lower ∧ Quiet recorded.calls
  handles recorded lower handle number := inStep.handles recorded.state lower handle.2 number
  empty hstate := by
    obtain ⟨hkeeps, hissued⟩ := inStep.empty hstate.1
    exact ⟨⟨⟨hkeeps.states, hstate.2.concat nofun⟩, fun _ _ ↦ hkeeps.handles _ _⟩, hissued⟩
  push {recorded lower handle number version} hstate hhandle hlive element := by
    have hpush := inStep.push hstate.1 hhandle hlive element
    have hrefused := hharmless.ledger_push hlive element
    rcases hleft : adapter.push handle.2 element recorded.state with ⟨answer, after⟩
    rcases hright : ground.ledger.push number element lower with ⟨answer', after'⟩
    simp only [Adapter.recording, hleft]
    rw [hleft, hright] at hpush
    rw [hright] at hrefused
    obtain ⟨hkeeps, hanswers⟩ := hpush
    cases hanswers with
    | error error =>
      refine ⟨⟨⟨hkeeps.states, hstate.2.concat fun violation herror ↦ ?_⟩,
        fun _ _ ↦ hkeeps.handles _ _⟩, .error error⟩
      exact hrefused violation (congrArg _ (Option.some.inj herror))
    | ok hissued =>
      exact ⟨⟨⟨hkeeps.states, hstate.2.concat nofun⟩, fun _ _ ↦ hkeeps.handles _ _⟩, .ok hissued⟩
  release {recorded lower handle number version} hstate hhandle hlive := by
    obtain ⟨hkeeps, hanswers⟩ := inStep.release hstate.1 hhandle hlive
    refine ⟨⟨⟨hkeeps.states, hstate.2.concat fun violation herror ↦ ?_⟩,
      fun _ _ ↦ hkeeps.handles _ _⟩, hanswers⟩
    rw [hanswers.eq] at herror
    exact hharmless.ledger_release hlive violation (AdapterError.eq_of_of? herror)
  read {recorded lower handle number version} hstate hhandle hlive := by
    obtain ⟨hkeeps, hanswers⟩ := inStep.read hstate.1 hhandle hlive
    refine ⟨⟨⟨hkeeps.states, hstate.2.concat fun violation herror ↦ ?_⟩,
      fun _ _ ↦ hkeeps.handles _ _⟩, hanswers⟩
    rw [hanswers.eq] at herror
    exact hharmless.ledger_read hlive violation (AdapterError.eq_of_of? herror)

end InStep

/-! ## Stores at any depth -/

/-- Stores over stores. At the bottom are counted handles, or a released store over an adapter that
has no handles to misuse. What an adapter at any level is called for can be written down. The last
two types are those of the versions at the bottom, which nobody gives back. -/
inductive StoreTower (κ : Type → Type) : Type → Type → Type → Type → Type 1 where
  | counting (name : String) (failPushAt : Option Element) :
    StoreTower κ HandleCounts CountedHandle Nat (List Element)
  | stored {τ θ : Type} (ground : Adapter τ θ) (start : τ) (harmless : ground.Harmless) :
    StoreTower κ (ReleasedStore τ θ κ) ReleasedHandle τ θ
  | nested {σ η τ θ : Type} (inner : StoreTower κ σ η τ θ) :
    StoreTower κ (ReleasedStore σ η κ) ReleasedHandle τ θ
  | recorded {σ η τ θ : Type} (inner : StoreTower κ σ η τ θ) :
    StoreTower κ (Recorded σ) (Nat × η) τ θ

namespace StoreTower

variable {κ : Type → Type} [SlotStore κ]

/-- The adapter at the top. -/
def adapter {σ η τ θ : Type} : StoreTower κ σ η τ θ → Adapter σ η
  | .counting name failPushAt => .counting name { failPushAt }
  | .stored ground _ _ => ground.releasedIn κ
  | .nested inner => inner.adapter.releasedIn κ
  | .recorded inner => inner.adapter.recording

/-- Nothing was done yet at any level. -/
def start {σ η τ θ : Type} : StoreTower κ σ η τ θ → σ
  | .counting _ _ => HandleCounts.start
  | .stored _ start _ => .ofInner start
  | .nested inner => .ofInner inner.start
  | .recorded inner => { state := inner.start }

/-- The versions at the bottom, without the books that are kept on them. -/
def ground {σ η τ θ : Type} : StoreTower κ σ η τ θ → Adapter τ θ
  | .counting name failPushAt => .failing name failPushAt
  | .stored ground _ _ => ground
  | .nested inner => inner.ground
  | .recorded inner => inner.ground

def groundStart {σ η τ θ : Type} : StoreTower κ σ η τ θ → τ
  | .counting _ _ => 0
  | .stored _ start _ => start
  | .nested inner => inner.groundStart
  | .recorded inner => inner.groundStart

/-- What is outstanding at every level, from the top. -/
def outstanding {σ η τ θ : Type} : StoreTower κ σ η τ θ → σ → List (Option Nat)
  | .counting name failPushAt, books => [(Adapter.counting name { failPushAt }).outstanding books]
  | .stored ground _ _, store => [(ground.releasedIn κ).outstanding store]
  | .nested inner, store =>
    (inner.adapter.releasedIn κ).outstanding store :: inner.outstanding store.inner
  | .recorded inner, written => inner.outstanding written.state

/-- The calls that were written down at any level. -/
def calls {σ η τ θ : Type} : StoreTower κ σ η τ θ → σ → List AdapterCall
  | .counting _ _, _ => []
  | .stored _ _ _, _ => []
  | .nested inner, store => inner.calls store.inner
  | .recorded inner, written => written.calls ++ inner.calls written.state

omit [SlotStore κ] in
theorem ground_harmless {σ η τ θ : Type} :
    (tower : StoreTower κ σ η τ θ) → tower.ground.Harmless
  | .counting name failPushAt => Adapter.failing_harmless name failPushAt
  | .stored _ _ harmless => harmless
  | .nested inner => inner.ground_harmless
  | .recorded inner => inner.ground_harmless

variable [LawfulSlotStore κ]

/-- Every level is in step with the ledger of the versions at the bottom. -/
def inStep {σ η τ θ : Type} : (tower : StoreTower κ σ η τ θ) → InStep tower.adapter tower.ground
  | .counting name failPushAt =>
    (HandleCounts.simulation (.refl (.failing name failPushAt)) name).inStep
  | .stored ground _ _ => (ReleasedStore.simulation κ ground).inStep
  | .nested inner => (inner.inStep.store κ).inStep
  | .recorded inner => inner.inStep.recording inner.ground_harmless

variable {σ η τ θ : Type}

theorem inStep_start (tower : StoreTower κ σ η τ θ) :
    tower.inStep.states tower.start (.start tower.groundStart) := by
  induction tower with
  | counting name failPushAt => exact HandleCounts.mirrors_start rfl
  | stored ground start harmless => exact ReleasedStore.refines_ofInner start
  | nested inner ih => exact InStep.store_start ih
  | recorded inner ih => exact ⟨ih, nofun⟩

/-- As many versions are outstanding at every level as in the ledger. -/
theorem outstanding_eq (tower : StoreTower κ σ η τ θ) {state : σ} {ledger : VersionLedger τ θ}
    (h : tower.inStep.states state ledger) :
    ∀ level ∈ tower.outstanding state, level = some ledger.outstanding := by
  induction tower with
  | counting name failPushAt =>
    intro level hlevel
    obtain rfl := List.mem_singleton.mp hlevel
    exact congrArg some (HandleCounts.Mirrors.live_size_eq h)
  | stored ground start harmless =>
    intro level hlevel
    obtain rfl := List.mem_singleton.mp hlevel
    exact congrArg some (ReleasedStore.Refines.live_eq h)
  | nested inner ih =>
    obtain ⟨upper, hstore, hsame⟩ := h
    have hstore : state.Refines upper := hstore
    intro level hlevel
    rcases List.mem_cons.mp hlevel with rfl | hlevel
    · exact congrArg some (hstore.live_eq.trans hsame.outstanding_eq)
    · exact ih (hstore.inner_eq ▸ hsame.inner) level hlevel
  | recorded inner ih => exact ih h.1

/-- No call at any level answered a misuse of handles. -/
theorem quiet_calls (tower : StoreTower κ σ η τ θ) {state : σ} {ledger : VersionLedger τ θ}
    (h : tower.inStep.states state ledger) : InStep.Quiet (tower.calls state) := by
  induction tower with
  | counting name failPushAt => exact nofun
  | stored ground start harmless => exact nofun
  | nested inner ih =>
    obtain ⟨upper, hstore, hsame⟩ := h
    have hstore : state.Refines upper := hstore
    exact ih (hstore.inner_eq ▸ hsame.inner)
  | recorded inner ih =>
    intro call hcall
    rcases List.mem_append.mp hcall with hown | hbelow
    · exact h.2 call hown
    · exact ih h.1 call hbelow

omit [LawfulSlotStore κ] in
theorem maxLen_eq (tower : StoreTower κ σ η τ θ) : tower.adapter.maxLen = tower.ground.maxLen := by
  induction tower with
  | counting name failPushAt => rfl
  | stored ground start harmless => rfl
  | nested inner ih => exact ih
  | recorded inner ih => exact ih

end StoreTower

/-- Released stores over counted handles, or over each other at any depth: whatever steps a client
takes with the handles of the outermost one, in whatever order, with second references to handles
that were given back and with pushes that fail below, the answers are those of a single released
store over the versions at the bottom. After every step as many versions are outstanding at every
level as in that single store, and nothing that was called at an inner level answered a misuse of
handles. -/
theorem nested_session_eq_released (κ : Type → Type) [SlotStore κ] [LawfulSlotStore κ]
    (tower : StoreTower κ σ η τ θ) (steps : List SessionStep) :
    let nested := Session.run (tower.adapter.releasedIn κ) steps { state := .ofInner tower.start }
    let single := Session.run (tower.ground.releasedIn κ) steps
      { state := .ofInner tower.groundStart }
    nested.1.map (SessionAnswer.map ReleasedHandle.id) =
        single.1.map (SessionAnswer.map ReleasedHandle.id) ∧
      (∀ level ∈ tower.nested.outstanding nested.2.state,
        level = (tower.ground.releasedIn κ).outstanding single.2.state) ∧
      ∀ call ∈ tower.calls nested.2.state.inner, ∀ violation,
        call.error? ≠ some (.protocol violation) := by
  intro nested single
  have hcovered {ρ ζ : Type} {left : Adapter ρ ζ} (hlimit : left.maxLen = tower.ground.maxLen)
      (step : SessionStep) (_ : step ∈ steps) :
      Simulation.Covers left tower.ground.ledger step := by
    cases step with
    | fits workload => exact hlimit
    | _ => trivial
  have hnestedStart : (tower.inStep.store κ).SessionsAgree { state := .ofInner tower.start }
      { state := .start tower.groundStart } :=
    ⟨tower.nested.inStep_start, rfl, fun _ ↦ by simp [Session.handle?]⟩
  have hsingleStart : (ReleasedStore.simulation κ tower.ground).SessionsAgree
      { state := .ofInner tower.groundStart } { state := .start tower.groundStart } :=
    ⟨ReleasedStore.refines_ofInner _, rfl, fun _ ↦ by simp [Session.handle?]⟩
  obtain ⟨hnested, htower⟩ := hnestedStart.run ReleasedHandle.id id
    (fun hhandle ↦ hhandle.id_eq) steps (hcovered tower.maxLen_eq)
  obtain ⟨hsingle, hstore⟩ := hsingleStart.run ReleasedHandle.id id
    (fun hhandle ↦ hhandle.id_eq) steps (hcovered rfl)
  have hstore := hstore.states
  refine ⟨hnested.trans hsingle.symm, fun level hlevel ↦ ?_,
    tower.nested.quiet_calls htower.states⟩
  rw [tower.nested.outstanding_eq htower.states level hlevel]
  exact congrArg some (ReleasedStore.Refines.live_eq hstore).symm

/-- Two stores over counted handles, with everything written down: a push fails at the bottom, a
slot is taken again, and a second reference to what was in it is refused by the outermost store
alone. -/
theorem nested_session_eq_released_stale :
    let steps : List SessionStep :=
      [.empty, .copy 0, .push 0 1, .push 2 7, .release 0, .push 2 2, .read 1, .push 1 3,
        .release 1, .read 3]
    let tower : StoreTower Slots _ _ _ _ :=
      .recorded (.nested (.recorded (.counting "counted" (some 7))))
    let nested := Session.run (tower.adapter.releasedIn Slots) steps
      { state := .ofInner tower.start }
    nested.1.map (SessionAnswer.map ReleasedHandle.id) =
        [.issued 0 0, .issued 1 0, .issued 2 1, .failed (.backend "injected failure at 7"),
          .released, .issued 3 2, .failed (.protocol (.useAfterRelease 0)),
          .failed (.protocol (.useAfterRelease 0)), .failed (.protocol (.doubleRelease 0)),
          .contents [1, 2]] ∧
      tower.outstanding nested.2.state.inner = [some 2, some 2] ∧
      ∀ call ∈ tower.calls nested.2.state.inner, ∀ violation,
        call.error? ≠ some (.protocol violation) := by
  intro steps tower
  obtain ⟨hanswers, -, hquiet⟩ := nested_session_eq_released Slots tower steps
  exact ⟨hanswers.trans rfl, by decide +kernel, hquiet⟩

end PushBench
