import PushBench.Proofs.Adapter.Reachability
import PushBench.Proofs.Adapter.Released

/-!
# Released stores under workloads

A store between the start of an invocation and its end: the handles it issued to the invocation are
stored beside those that were stored before. Over an adapter whose operations leave versions as they
are, a handle reads the same for as long as it is live.
-/

namespace PushBench

variable {σ η : Type} {κ : Type → Type} [SlotStore κ]

namespace ReleasedStore

variable {inner : Adapter σ η} {start store : ReleasedStore σ η κ} {handle : ReleasedHandle}
  {version : η}

/-! ## Operations -/

theorem push_of_lookup (hlookup : store.lookup handle = some version) (element : Element) :
    (inner.releasedIn κ).push handle element store =
      match inner.push version element store.inner with
      | (.error error, state) => (.error error, { store with inner := state })
      | (.ok next, state) =>
        (.ok ({ store with inner := state }.keep next).1,
          ({ store with inner := state }.keep next).2) := by
  rcases hpush : inner.push version element store.inner with ⟨_ | _, _⟩ <;>
    simp only [Adapter.releasedIn, hlookup, hpush]

theorem push_of_stale (hstale : store.lookup handle = none) (element : Element) :
    ((inner.releasedIn κ).push handle element store).2 = store := by
  simp only [Adapter.releasedIn, hstale]

theorem release_of_lookup (hlookup : store.lookup handle = some version) :
    (inner.releasedIn κ).release handle store =
      ((inner.release version store.inner).1,
        { store with inner := (inner.release version store.inner).2 }.vacate handle.slot) := by
  simp only [Adapter.releasedIn, hlookup, vacate]

theorem release_of_stale (hstale : store.lookup handle = none) :
    ((inner.releasedIn κ).release handle store).2 = store := by
  simp only [Adapter.releasedIn, hstale]

theorem read_of_lookup (hlookup : store.lookup handle = some version) :
    (inner.releasedIn κ).read handle store =
      ((inner.read version store.inner).1,
        { store with inner := (inner.read version store.inner).2 }) := by
  simp only [Adapter.releasedIn, hlookup]

theorem read_of_stale (hstale : store.lookup handle = none) :
    ((inner.releasedIn κ).read handle store).2 = store := by
  simp only [Adapter.releasedIn, hstale]

variable [LawfulSlotStore κ]

/-- Only the handle that is given back is looked up differently. -/
theorem lookup_vacate_of_lookup (hlookup : store.lookup handle = some version)
    (other : ReleasedHandle) :
    (store.vacate handle.slot).lookup other =
      if other = handle then none else store.lookup other := by
  have hstored := lookup_eq_some_iff.mp hlookup
  have htaken : (SlotStore.get? store.versions handle.slot).isSome := by simp [hstored]
  rw [lookup_vacate store htaken]
  by_cases hother : other = handle
  · rw [if_pos hother, if_pos (congrArg _ hother)]
  · rw [if_neg hother]
    split
    next hslot =>
      -- another number in the slot was stale already
      have hid : handle.id ≠ other.id := fun hid ↦ hother (by
        rcases other with ⟨slot, id⟩
        rcases handle with ⟨slot', id'⟩
        exact congrArg₂ _ hslot hid.symm)
      rw [lookup, hslot, hstored]
      exact (if_neg hid).symm
    next => rfl

/-! ## Handles of an invocation -/

/-- What an invocation that started with another store has made of it: the handles it holds are its
own and are stored beside those that were stored before, and the operations of the inner adapter led
there. -/
structure Holds (inner : Adapter σ η) (start store : ReleasedStore σ η κ)
    (own : List ReleasedHandle) : Prop where
  reaches : inner.Reaches start.inner store.inner
  nodup : own.Nodup
  lookup_eq {handle : ReleasedHandle} : handle ∉ own → store.lookup handle = start.lookup handle
  lookup_own {handle : ReleasedHandle} : handle ∈ own →
    start.lookup handle = none ∧ ∃ version, store.lookup handle = some version
  live_eq : store.live = start.live + own.length

namespace Holds

variable {own : List ReleasedHandle}

omit [LawfulSlotStore κ] in
theorem nil (inner : Adapter σ η) (start : ReleasedStore σ η κ) : Holds inner start start [] where
  reaches := .refl inner start.inner
  nodup := .nil
  lookup_eq _ := rfl
  lookup_own hmem := by simp at hmem
  live_eq := rfl

omit [LawfulSlotStore κ] in
theorem withInner (h : Holds inner start store own) {state : σ}
    (hstate : inner.Reaches start.inner state) :
    Holds inner start { store with inner := state } own :=
  { h with reaches := hstate }

/-- A new handle is the invocation's own. -/
theorem keep (h : Holds inner start store own) (version : η) :
    Holds inner start (store.keep version).2 (own ++ [(store.keep version).1]) := by
  have hfresh : store.lookup (store.keep version).1 = none := by
    simp [lookup, ReleasedStore.keep, LawfulSlotStore.get?_insert_fst]
  have hown : (store.keep version).1 ∉ own := fun hmem ↦ by
    obtain ⟨-, kept, hkept⟩ := h.lookup_own hmem
    cases hfresh.symm.trans hkept
  exact {
    reaches := h.reaches
    nodup := by
      refine List.nodup_append.mpr ⟨h.nodup, by simp, fun handle hmem other hother heq ↦ hown ?_⟩
      rwa [← List.mem_singleton.mp hother, ← heq]
    lookup_eq := fun {handle} hmem ↦ by
      rw [List.mem_append, List.mem_singleton, not_or] at hmem
      rw [lookup_keep, if_neg hmem.2, h.lookup_eq hmem.1]
    lookup_own := fun {handle} hmem ↦ by
      rw [lookup_keep]
      rcases List.mem_append.mp hmem with hold | hnew
      · have hother : handle ≠ (store.keep version).1 := fun heq ↦ hown (heq ▸ hold)
        rw [if_neg hother]
        exact h.lookup_own hold
      · have hhandle := List.mem_singleton.mp hnew
        rw [if_pos hhandle, hhandle, ← h.lookup_eq hown]
        exact ⟨hfresh, version, rfl⟩
    live_eq := by
      have hlive := h.live_eq
      simp only [live, ReleasedStore.keep, LawfulSlotStore.size_insert, List.length_append,
        List.length_singleton] at hlive ⊢
      omega }

/-- A handle that is given back is the invocation's no more. -/
theorem vacate (h : Holds inner start store (handle :: own)) :
    Holds inner start (store.vacate handle.slot) own := by
  obtain ⟨hstart, version, hlookup⟩ := h.lookup_own List.mem_cons_self
  have hnodup := List.nodup_cons.mp h.nodup
  exact {
    reaches := h.reaches
    nodup := hnodup.2
    lookup_eq := fun {other} hmem ↦ by
      rw [lookup_vacate_of_lookup hlookup]
      split
      next heq => rw [heq, hstart]
      next hother => exact h.lookup_eq (by simp [hother, hmem])
    lookup_own := fun {other} hmem ↦ by
      have hother : other ≠ handle := fun heq ↦ hnodup.1 (heq ▸ hmem)
      rw [lookup_vacate_of_lookup hlookup, if_neg hother]
      exact h.lookup_own (List.mem_cons_of_mem _ hmem)
    live_eq := by
      have htaken : (SlotStore.get? store.versions handle.slot).isSome := by
        simp [lookup_eq_some_iff.mp hlookup]
      have hsize := LawfulSlotStore.size_erase store.versions handle.slot htaken
      have hlive := h.live_eq
      simp only [live, ReleasedStore.vacate, List.length_cons] at hlive ⊢
      omega }

/-- A handle that is given back is the invocation's no more, whatever the inner adapter answers. -/
theorem release (h : Holds inner start store (handle :: own)) :
    Holds inner start ((inner.releasedIn κ).release handle store).2 own := by
  obtain ⟨-, version, hlookup⟩ := h.lookup_own List.mem_cons_self
  rw [release_of_lookup hlookup]
  exact (h.withInner (h.reaches.release version)).vacate

end Holds

/-- What holds of a store while a workload drives it. -/
def invariant (inner : Adapter σ η) (start : ReleasedStore σ η κ) :
    Workload.Invariant (inner.releasedIn κ) where
  idle store := Holds inner start store []
  one handle store := Holds inner start store [handle]
  two older newer store := Holds inner start store [older, newer]
  empty h := (h.withInner h.reaches.empty).keep _
  push_ok {handle newer store after} element h hpush := by
    obtain ⟨-, version, hlookup⟩ := h.lookup_own List.mem_cons_self
    have hreaches := h.reaches.push version element
    rw [push_of_lookup hlookup] at hpush
    split at hpush
    next => cases hpush
    next next state hinner =>
      cases hpush
      rw [hinner] at hreaches
      exact (h.withInner hreaches).keep next
  push_error {handle store after error} element h hpush := by
    obtain ⟨-, version, hlookup⟩ := h.lookup_own List.mem_cons_self
    have hreaches := h.reaches.push version element
    rw [push_of_lookup hlookup] at hpush
    split at hpush
    next error state hinner =>
      cases hpush
      rw [hinner] at hreaches
      exact h.withInner hreaches
    next => cases hpush
  read {handle store} h := by
    obtain ⟨-, version, hlookup⟩ := h.lookup_own List.mem_cons_self
    rw [read_of_lookup hlookup]
    exact h.withInner (h.reaches.read version)
  retire_one h := h.release
  retire_older h := h.release

/-- The inner adapter answered with an error on the way. -/
def Answered (inner : Adapter σ η) (start : ReleasedStore σ η κ) (error : AdapterError)
    (store : ReleasedStore σ η κ) : Prop :=
  ∃ errors, inner.Leads start.inner errors store.inner ∧ error ∈ errors

omit [LawfulSlotStore κ] in
theorem Holds.answered_of_release {own : List ReleasedHandle} {after : ReleasedStore σ η κ}
    {error : AdapterError} (h : Holds inner start store (handle :: own))
    (hrelease : (inner.releasedIn κ).release handle store = (.error error, after)) :
    Answered inner start error after := by
  obtain ⟨-, version, hlookup⟩ := h.lookup_own List.mem_cons_self
  obtain ⟨errors, hleads⟩ := h.reaches
  rw [release_of_lookup hlookup] at hrelease
  obtain ⟨hanswer, rfl⟩ := Prod.mk.inj hrelease
  exact ⟨_, hleads.release version, by simp [hanswer, errorsOf]⟩

omit [LawfulSlotStore κ] in
theorem Answered.release {error : AdapterError} (h : Answered inner start error store)
    (hlookup : store.lookup handle = some version) :
    Answered inner start error ((inner.releasedIn κ).release handle store).2 := by
  obtain ⟨errors, hleads, hmem⟩ := h
  rw [release_of_lookup hlookup]
  exact ⟨_, hleads.release version, List.mem_append_left _ hmem⟩

/-- A store fails a workload only with what the inner adapter answered. -/
theorem notes (inner : Adapter σ η) (start : ReleasedStore σ η κ) :
    (invariant inner start).Notes (Answered inner start) where
  push {handle store after error} element h hpush := by
    obtain ⟨-, version, hlookup⟩ := Holds.lookup_own h List.mem_cons_self
    obtain ⟨errors, hleads⟩ := Holds.reaches h
    have hleads := hleads.push version element
    rw [push_of_lookup hlookup] at hpush
    split at hpush
    next error state hinner =>
      cases hpush
      rw [hinner] at hleads
      exact ⟨_, hleads, by simp [errorsOf]⟩
    next => cases hpush
  read {handle store after error} h hread := by
    obtain ⟨-, version, hlookup⟩ := Holds.lookup_own h List.mem_cons_self
    obtain ⟨errors, hleads⟩ := Holds.reaches h
    rw [read_of_lookup hlookup] at hread
    obtain ⟨hanswer, rfl⟩ := Prod.mk.inj hread
    exact ⟨_, hleads.read version, by simp [hanswer, errorsOf]⟩
  retire_one h hretire := Holds.answered_of_release h hretire
  retire_older h hretire := Holds.answered_of_release h hretire
  abandon h hnoted := by
    obtain ⟨-, version, hlookup⟩ := Holds.lookup_own h List.mem_cons_self
    exact hnoted.release hlookup

end ReleasedStore

/-! ## Contents -/

/-- Versions that were issued in one state are still issued in another, and read the same. -/
def Adapter.Retains (inner : Adapter σ η) (issued : σ → η → Prop) (state after : σ) : Prop :=
  ∀ version, issued state version →
    issued after version ∧ (inner.read version after).1 = (inner.read version state).1

/-- The operations of an adapter leave the versions it has issued as they are. -/
structure Adapter.Persists (inner : Adapter σ η) (issued : σ → η → Prop) : Prop where
  issued_empty (state : σ) : issued (inner.empty state).2 (inner.empty state).1
  issued_push {version next : η} {state after : σ} (element : Element) : issued state version →
    inner.push version element state = (.ok next, after) → issued after next
  empty (state : σ) : inner.Retains issued state (inner.empty state).2
  push {version : η} {state : σ} (element : Element) : issued state version →
    inner.Retains issued state (inner.push version element state).2
  release {version : η} {state : σ} : issued state version →
    inner.Retains issued state (inner.release version state).2
  read {version : η} {state : σ} : issued state version →
    inner.Retains issued state (inner.read version state).2

namespace ReleasedStore

variable {inner : Adapter σ η} {issued : σ → η → Prop} {start store : ReleasedStore σ η κ}
  {handle : ReleasedHandle} {version : η}

/-- What is stored was issued by the inner adapter, and the numbers of stored versions are those of
handles that were issued. -/
structure Sound (issued : σ → η → Prop) (store : ReleasedStore σ η κ) : Prop where
  issued {handle : ReleasedHandle} {version : η} : store.lookup handle = some version →
    issued store.inner version
  id_lt {handle : ReleasedHandle} {version : η} : store.lookup handle = some version →
    handle.id < store.nextId

/-- What operations make of a store: a handle that was issued before refers to the same version, or
to none any more, and versions read the same. -/
structure Outlasts (inner : Adapter σ η) (issued : σ → η → Prop)
    (start store : ReleasedStore σ η κ) : Prop where
  sound : store.Sound issued
  nextId_le : start.nextId ≤ store.nextId
  lookup {handle : ReleasedHandle} : handle.id < start.nextId →
    store.lookup handle = start.lookup handle ∨ store.lookup handle = none
  retains : inner.Retains issued start.inner store.inner

namespace Outlasts

theorem refl (hsound : start.Sound issued) : Outlasts inner issued start start where
  sound := hsound
  nextId_le := Nat.le_refl _
  lookup _ := .inl rfl
  retains _ hversion := ⟨hversion, rfl⟩

theorem withInner (h : Outlasts inner issued start store) {state : σ}
    (hstate : inner.Retains issued store.inner state) :
    Outlasts inner issued start { store with inner := state } where
  sound :=
    { issued := fun hlookup ↦ (hstate _ (h.sound.issued hlookup)).1
      id_lt := h.sound.id_lt }
  nextId_le := h.nextId_le
  lookup := h.lookup
  retains version hversion :=
    have hbetween := h.retains version hversion
    have hafter := hstate version hbetween.1
    ⟨hafter.1, hafter.2.trans hbetween.2⟩

variable [LawfulSlotStore κ]

theorem keep (h : Outlasts inner issued start store) (hversion : issued store.inner version) :
    Outlasts inner issued start (store.keep version).2 where
  sound :=
    { issued := fun {handle kept} hlookup ↦ by
        rw [lookup_keep] at hlookup
        split at hlookup
        next =>
          cases hlookup
          exact hversion
        next => exact h.sound.issued hlookup
      id_lt := fun {handle kept} hlookup ↦ by
        rw [lookup_keep] at hlookup
        split at hlookup
        next hnew =>
          rw [hnew]
          exact Nat.lt_succ_self _
        next => exact Nat.lt_succ_of_lt (h.sound.id_lt hlookup) }
  nextId_le := Nat.le_succ_of_le h.nextId_le
  lookup {handle} hold := by
    have hother : handle ≠ (store.keep version).1 := by
      rintro rfl
      exact Nat.not_lt_of_le h.nextId_le hold
    rw [lookup_keep, if_neg hother]
    exact h.lookup hold
  retains := h.retains

theorem vacate (h : Outlasts inner issued start store)
    (hlookup : store.lookup handle = some version) :
    Outlasts inner issued start (store.vacate handle.slot) where
  sound :=
    { issued := fun {other kept} hother ↦ by
        rw [lookup_vacate_of_lookup hlookup] at hother
        split at hother
        next => cases hother
        next => exact h.sound.issued hother
      id_lt := fun {other kept} hother ↦ by
        rw [lookup_vacate_of_lookup hlookup] at hother
        split at hother
        next => cases hother
        next => exact h.sound.id_lt hother }
  nextId_le := h.nextId_le
  lookup {other} hold := by
    rw [lookup_vacate_of_lookup hlookup]
    split
    next => exact .inr rfl
    next => exact h.lookup hold
  retains := h.retains

/-- Whatever is done with a store, its handles outlast it or are given back. -/
theorem of_reaches (hpersists : inner.Persists issued) (hsound : start.Sound issued)
    (h : (inner.releasedIn κ).Reaches start store) : Outlasts inner issued start store := by
  obtain ⟨errors, h⟩ := h
  induction h with
  | start => exact refl hsound
  | empty _ ih => exact (ih.withInner (hpersists.empty _)).keep (hpersists.issued_empty _)
  | @push _ store handle element _ ih =>
    cases hlookup : store.lookup handle with
    | none => rwa [push_of_stale hlookup]
    | some version =>
      have hversion := ih.sound.issued hlookup
      have hretains := hpersists.push element hversion
      rw [push_of_lookup hlookup]
      rcases hinner : inner.push version element store.inner with ⟨_ | next, state⟩
      · rw [hinner] at hretains
        exact ih.withInner hretains
      · rw [hinner] at hretains
        exact (ih.withInner hretains).keep (hpersists.issued_push element hversion hinner)
  | @release _ store handle _ ih =>
    cases hlookup : store.lookup handle with
    | none => rwa [release_of_stale hlookup]
    | some version =>
      have hretains := hpersists.release (ih.sound.issued hlookup)
      rw [release_of_lookup hlookup]
      exact (ih.withInner hretains).vacate hlookup
  | @read _ store handle _ ih =>
    cases hlookup : store.lookup handle with
    | none => rwa [read_of_stale hlookup]
    | some version =>
      have hretains := hpersists.read (ih.sound.issued hlookup)
      rw [read_of_lookup hlookup]
      exact ih.withInner hretains

end Outlasts

variable [LawfulSlotStore κ]

theorem sound_ofInner (state : σ) :
    (ofInner state : ReleasedStore σ η κ).Sound issued where
  issued hlookup := by simp [lookup, ofInner, LawfulSlotStore.get?_empty] at hlookup
  id_lt hlookup := by simp [lookup, ofInner, LawfulSlotStore.get?_empty] at hlookup

/-- A handle that is live in two states of a store reads the same in both. -/
theorem read_eq_of_reaches (hpersists : inner.Persists issued) (hsound : start.Sound issued)
    (h : (inner.releasedIn κ).Reaches start store) (hstart : (start.lookup handle).isSome)
    (hlive : (store.lookup handle).isSome) :
    ((inner.releasedIn κ).read handle store).1 = ((inner.releasedIn κ).read handle start).1 := by
  have houtlasts := Outlasts.of_reaches hpersists hsound h
  obtain ⟨version, hversion⟩ := Option.isSome_iff_exists.mp hstart
  have hsame : store.lookup handle = some version := by
    rcases houtlasts.lookup (hsound.id_lt hversion) with heq | hnone
    · rw [heq, hversion]
    · simp [hnone] at hlive
  rw [read_of_lookup hsame, read_of_lookup hversion]
  exact (houtlasts.retains version (hsound.issued hversion)).2

end ReleasedStore

end PushBench
