import PushBench.Adapter.Faulty
import PushBench.Adapter.Released
import PushBench.Adapter.Sequence
import PushBench.Proofs.Adapter.Session
import PushBench.Proofs.Adapter.VersionLedger

/-!
# Released stores refine ledgers

A released store finds versions by slot, and slots are taken again. Every handle it ever issued
still means what its number means in the ledger: the version that was stored under that number, or
nothing once the number was given back.
-/

namespace PushBench

variable {σ η : Type} {κ : Type → Type} [SlotStore κ]

namespace ReleasedStore

theorem lookup_eq_some_iff {store : ReleasedStore σ η κ} {handle : ReleasedHandle} {version : η} :
    store.lookup handle = some version ↔
      SlotStore.get? store.versions handle.slot = some ⟨handle.id, version⟩ := by
  unfold lookup
  split
  next stored hstored =>
    rcases stored with ⟨id, kept⟩
    by_cases hid : id = handle.id <;> simp [hid, hstored]
  next hvacant => simp [hvacant]

/-- A store keeps the books of a ledger: each slot holds a live version under its number, and no
number is in two slots. -/
structure Refines (store : ReleasedStore σ η κ) (ledger : VersionLedger σ η) : Prop where
  inner_eq : store.inner = ledger.inner
  nextId_eq : store.nextId = ledger.stored.length
  version?_eq {slot : Nat} {stored : StoredVersion η} :
    SlotStore.get? store.versions slot = some stored →
      ledger.version? stored.id = some stored.version
  slot_eq {slot slot' : Nat} {stored stored' : StoredVersion η} :
    SlotStore.get? store.versions slot = some stored →
      SlotStore.get? store.versions slot' = some stored' → stored.id = stored'.id → slot = slot'
  live_add_returned : store.live + ledger.returned.length = ledger.stored.length
  returned_nodup : ledger.returned.Nodup
  lt_of_mem_returned {number : Nat} : number ∈ ledger.returned → number < ledger.stored.length

/-- A handle of a store means what a number means in a ledger. -/
structure Means (store : ReleasedStore σ η κ) (ledger : VersionLedger σ η)
    (handle : ReleasedHandle) (number : Nat) : Prop where
  id_eq : handle.id = number
  lt_length : number < ledger.stored.length
  lookup_eq : store.lookup handle = ledger.version? number

variable {store : ReleasedStore σ η κ} {ledger : VersionLedger σ η}

theorem Refines.withInner (h : store.Refines ledger) (state : σ) :
    { store with inner := state }.Refines { ledger with inner := state } :=
  { h with inner_eq := rfl }

theorem Refines.live_eq (h : store.Refines ledger) : store.live = ledger.outstanding := by
  have hlive := h.live_add_returned
  unfold VersionLedger.outstanding
  omega

/-- A number in a slot is the number of a version that was stored. -/
theorem Refines.id_lt (h : store.Refines ledger) {slot : Nat} {stored : StoredVersion η}
    (hstored : SlotStore.get? store.versions slot = some stored) :
    stored.id < ledger.stored.length := by
  have hversion := h.version?_eq hstored
  unfold VersionLedger.version? at hversion
  split at hversion
  · cases hversion
  · exact (List.getElem?_eq_some_iff.mp hversion).1

variable [LawfulSlotStore κ]

theorem refines_ofInner (inner : σ) :
    (ofInner inner : ReleasedStore σ η κ).Refines (.start inner) where
  inner_eq := rfl
  nextId_eq := rfl
  version?_eq hstored := by simp [ofInner, LawfulSlotStore.get?_empty] at hstored
  slot_eq hstored := by simp [ofInner, LawfulSlotStore.get?_empty] at hstored
  live_add_returned := by
    simp [live, ofInner, LawfulSlotStore.size_empty, VersionLedger.start]
  returned_nodup := .nil
  lt_of_mem_returned hnumber := by simp [VersionLedger.start] at hnumber

theorem Refines.keep (h : store.Refines ledger) (version : η) :
    (store.keep version).2.Refines (ledger.enter version).2 where
  inner_eq := h.inner_eq
  nextId_eq := by simp [ReleasedStore.keep, VersionLedger.enter, h.nextId_eq]
  version?_eq {slot stored} hstored := by
    simp only [ReleasedStore.keep, LawfulSlotStore.get?_insert] at hstored
    split at hstored
    · cases hstored
      have hfresh : ledger.stored.length ∉ ledger.returned := fun hmem ↦
        Nat.lt_irrefl _ (h.lt_of_mem_returned hmem)
      simp [VersionLedger.version?, VersionLedger.enter, h.nextId_eq, hfresh]
    · rw [ledger.version?_enter version (h.id_lt hstored)]
      exact h.version?_eq hstored
  slot_eq {slot slot' stored stored'} hstored hstored' hid := by
    simp only [ReleasedStore.keep, LawfulSlotStore.get?_insert] at hstored hstored'
    have hold {slot : Nat} {stored : StoredVersion η}
        (hslot : SlotStore.get? store.versions slot = some stored) : stored.id ≠ store.nextId :=
      Nat.ne_of_lt (h.nextId_eq ▸ h.id_lt hslot)
    split at hstored <;> split at hstored'
    next hslot hslot' => rw [hslot, hslot']
    next => cases hstored; exact absurd hid.symm (hold hstored')
    next => cases hstored'; exact absurd hid (hold hstored)
    next => exact h.slot_eq hstored hstored' hid
  live_add_returned := by
    have hlive := h.live_add_returned
    simp only [live, ReleasedStore.keep, VersionLedger.enter, LawfulSlotStore.size_insert,
      List.length_append, List.length_singleton] at hlive ⊢
    omega
  returned_nodup := h.returned_nodup
  lt_of_mem_returned {number} hnumber := by
    have hlt := h.lt_of_mem_returned hnumber
    simp only [VersionLedger.enter, List.length_append]
    omega

/-- The handle of a new version means its number. -/
theorem Refines.means_keep (h : store.Refines ledger) (version : η) :
    (store.keep version).2.Means (ledger.enter version).2 (store.keep version).1
      (ledger.enter version).1 where
  id_eq := h.nextId_eq
  lt_length := by simp [VersionLedger.enter]
  lookup_eq := by
    have hstored : SlotStore.get? (store.keep version).2.versions (store.keep version).1.slot =
        some ⟨(store.keep version).1.id, version⟩ := by
      simp [ReleasedStore.keep, LawfulSlotStore.get?_insert]
    have hversion := (h.keep version).version?_eq hstored
    rw [lookup_eq_some_iff.mpr hstored, ← hversion]
    exact congrArg _ h.nextId_eq

/-- Only the new handle is looked up differently, although the slot may be an old one. -/
theorem lookup_keep (store : ReleasedStore σ η κ) (version : η) (handle : ReleasedHandle) :
    (store.keep version).2.lookup handle =
      if handle = (store.keep version).1 then some version else store.lookup handle := by
  have hvacant := LawfulSlotStore.get?_insert_fst store.versions
    (⟨store.nextId, version⟩ : StoredVersion η)
  rcases handle with ⟨slot, id⟩
  simp only [lookup, keep, LawfulSlotStore.get?_insert, ReleasedHandle.mk.injEq]
  by_cases hslot : slot = (SlotStore.insert store.versions
    (⟨store.nextId, version⟩ : StoredVersion η)).1
  · simp [hslot, hvacant, eq_comm]
  · simp [hslot]

theorem Means.keep (hstore : store.Refines ledger) {handle : ReleasedHandle} {number : Nat}
    (h : store.Means ledger handle number) (version : η) :
    (store.keep version).2.Means (ledger.enter version).2 handle number where
  id_eq := h.id_eq
  lt_length := Nat.lt_of_lt_of_le h.lt_length (by simp [VersionLedger.enter])
  lookup_eq := by
    have hold : handle ≠ (store.keep version).1 := by
      intro hnew
      have hid : handle.id = store.nextId := by rw [hnew]; rfl
      rw [h.id_eq, hstore.nextId_eq] at hid
      exact Nat.ne_of_lt h.lt_length hid
    rw [ledger.version?_enter version h.lt_length, ← h.lookup_eq, lookup_keep, if_neg hold]

/-- The store after a version was given back to it. -/
def vacate (store : ReleasedStore σ η κ) (slot : Nat) : ReleasedStore σ η κ :=
  { store with versions := SlotStore.erase store.versions slot }

theorem lookup_vacate (store : ReleasedStore σ η κ) {slot : Nat}
    (htaken : (SlotStore.get? store.versions slot).isSome) (handle : ReleasedHandle) :
    (store.vacate slot).lookup handle =
      if handle.slot = slot then none else store.lookup handle := by
  simp only [lookup, vacate, LawfulSlotStore.get?_erase _ _ _ htaken]
  by_cases hslot : handle.slot = slot
  · simp [hslot]
  · simp [hslot]

variable {handle : ReleasedHandle} {version : η}

omit [LawfulSlotStore κ] in
theorem Refines.version?_of_lookup (h : store.Refines ledger)
    (hlookup : store.lookup handle = some version) :
    ledger.version? handle.id = some version :=
  h.version?_eq (lookup_eq_some_iff.mp hlookup)

theorem Refines.vacate (h : store.Refines ledger) (hlookup : store.lookup handle = some version) :
    (store.vacate handle.slot).Refines
      { ledger with returned := handle.id :: ledger.returned } := by
  have hstored := lookup_eq_some_iff.mp hlookup
  have htaken : (SlotStore.get? store.versions handle.slot).isSome := by simp [hstored]
  have hsize := LawfulSlotStore.size_erase store.versions handle.slot htaken
  have hsplit {slot : Nat} {other : StoredVersion η}
      (hother : SlotStore.get? (store.vacate handle.slot).versions slot = some other) :
      slot ≠ handle.slot ∧ SlotStore.get? store.versions slot = some other := by
    simp only [ReleasedStore.vacate, LawfulSlotStore.get?_erase _ _ _ htaken] at hother
    split at hother
    next => cases hother
    next hslot => exact ⟨hslot, hother⟩
  exact {
    inner_eq := h.inner_eq
    nextId_eq := h.nextId_eq
    version?_eq := fun {slot other} hother ↦ by
      obtain ⟨hslot, hother⟩ := hsplit hother
      have hid : other.id ≠ handle.id := fun hid ↦ hslot (h.slot_eq hother hstored hid)
      rw [ledger.version?_returned, if_neg hid]
      exact h.version?_eq hother
    slot_eq := fun hfirst hsecond ↦ h.slot_eq (hsplit hfirst).2 (hsplit hsecond).2
    live_add_returned := by
      have hlive := h.live_add_returned
      simp only [live, ReleasedStore.vacate, List.length_cons] at hlive ⊢
      omega
    returned_nodup := by
      refine List.nodup_cons.mpr ⟨fun hmem ↦ ?_, h.returned_nodup⟩
      simpa [VersionLedger.version?, hmem] using h.version?_of_lookup hlookup
    lt_of_mem_returned := fun {number} hnumber ↦ by
      rcases List.mem_cons.mp hnumber with rfl | hnumber
      · exact h.id_lt hstored
      · exact h.lt_of_mem_returned hnumber }

theorem Means.vacate (hstore : store.Refines ledger) {other : ReleasedHandle} {number : Nat}
    (h : store.Means ledger other number) (hlookup : store.lookup handle = some version) :
    (store.vacate handle.slot).Means { ledger with returned := handle.id :: ledger.returned }
      other number where
  id_eq := h.id_eq
  lt_length := h.lt_length
  lookup_eq := by
    have hstored := lookup_eq_some_iff.mp hlookup
    have htaken : (SlotStore.get? store.versions handle.slot).isSome := by simp [hstored]
    rw [lookup_vacate store htaken, ledger.version?_returned, ← h.id_eq]
    -- A handle into the vacated slot was stale before, or it is a copy of the one given back.
    cases hother : store.lookup other with
    | none =>
      have hversion := h.lookup_eq.symm.trans hother
      rw [h.id_eq, hversion, ite_self, ite_self]
    | some kept =>
      have hkept := lookup_eq_some_iff.mp hother
      have hslot_iff : other.slot = handle.slot ↔ other.id = handle.id := by
        constructor
        · intro hslot
          rw [hslot, hstored] at hkept
          exact (congrArg StoredVersion.id (Option.some.inj hkept)).symm
        · exact hstore.slot_eq hkept hstored
      rw [hstore.version?_of_lookup hother]
      simp only [hslot_iff]

/-- Stores and ledgers correspond, and so do handles and numbers. -/
def correspondence (σ η : Type) (κ : Type → Type) [SlotStore κ] :
    Correspondence (ReleasedStore σ η κ) (VersionLedger σ η) ReleasedHandle Nat :=
  ⟨Refines, Means⟩

omit [LawfulSlotStore κ] in
theorem keeps_withInner (h : store.Refines ledger) (state : σ) :
    (correspondence σ η κ).Keeps store ledger { store with inner := state }
      { ledger with inner := state } :=
  ⟨h.withInner state, fun _ _ hhandle ↦ ⟨hhandle.id_eq, hhandle.lt_length, hhandle.lookup_eq⟩⟩

theorem keeps_keep (h : store.Refines ledger) (version : η) :
    (correspondence σ η κ).Keeps store ledger (store.keep version).2 (ledger.enter version).2 :=
  ⟨h.keep version, fun _ _ hhandle ↦ hhandle.keep h version⟩

theorem keeps_vacate (h : store.Refines ledger) (hlookup : store.lookup handle = some version) :
    (correspondence σ η κ).Keeps store ledger (store.vacate handle.slot)
      { ledger with returned := handle.id :: ledger.returned } :=
  ⟨h.vacate hlookup, fun _ _ hhandle ↦ hhandle.vacate h hlookup⟩

/-- No operation tells a released store from the ledger of its versions. -/
def simulation (κ : Type → Type) [SlotStore κ] [LawfulSlotStore κ] (inner : Adapter σ η) :
    Simulation (inner.releasedIn κ) inner.ledger where
  toCorrespondence := correspondence σ η κ
  kind_eq := rfl
  empty {store ledger} hstore := by
    simp only [Adapter.releasedIn, Adapter.ledger, hstore.inner_eq]
    have hinner := keeps_withInner hstore (inner.empty ledger.inner).2
    exact ⟨hinner.trans (keeps_keep hinner.states _), hinner.states.means_keep _⟩
  push {store ledger handle number} hstore hhandle element := by
    simp only [Adapter.releasedIn, Adapter.ledger, hhandle.lookup_eq, hhandle.id_eq]
    cases ledger.version? number with
    | none => exact ⟨.refl hstore, .error _⟩
    | some version =>
      simp only [hstore.inner_eq]
      rcases inner.push version element ledger.inner with ⟨answer, state⟩
      have hinner := keeps_withInner hstore state
      cases answer with
      | error error => exact ⟨hinner, .error error⟩
      | ok next =>
        exact ⟨hinner.trans (keeps_keep hinner.states next), .ok (hinner.states.means_keep next)⟩
  release {store ledger handle number} hstore hhandle := by
    simp only [Adapter.releasedIn, Adapter.ledger, hhandle.lookup_eq, ← hhandle.id_eq]
    cases hversion : ledger.version? handle.id with
    | none => exact ⟨.refl hstore, .error _⟩
    | some version =>
      have hlookup : store.lookup handle = some version := by
        rw [hhandle.lookup_eq, ← hhandle.id_eq, hversion]
      simp only [hstore.inner_eq]
      have hinner := keeps_withInner hstore (inner.release version ledger.inner).2
      exact ⟨hinner.trans (keeps_vacate hinner.states hlookup), .of_eq rfl⟩
  read {store ledger handle number} hstore hhandle := by
    simp only [Adapter.releasedIn, Adapter.ledger, hhandle.lookup_eq, hhandle.id_eq]
    cases ledger.version? number with
    | none => exact ⟨.refl hstore, .error _⟩
    | some version =>
      simp only [hstore.inner_eq]
      exact ⟨keeps_withInner hstore _, .of_eq rfl⟩

/-- What is done with a handle whose number was given back: every call is refused with the number,
and the store stays as it is. -/
structure Refuses (inner : Adapter σ η) (store : ReleasedStore σ η κ) (handle : ReleasedHandle) :
    Prop where
  push (element : Element) : (inner.releasedIn κ).push handle element store =
    (.error (.protocol (.useAfterRelease handle.id)), store)
  read : (inner.releasedIn κ).read handle store =
    (.error (.protocol (.useAfterRelease handle.id)), store)
  release : (inner.releasedIn κ).release handle store =
    (.error (.protocol (.doubleRelease handle.id)), store)

/-- What is done with a handle whose number stands for a version: the inner adapter acts on that
version, and its answer is passed on. Only a push that succeeds and a release change anything but
the inner adapter's state. -/
structure ActsOn (inner : Adapter σ η) (store : ReleasedStore σ η κ) (handle : ReleasedHandle)
    (version : η) : Prop where
  push_ok (element : Element) {next : η} {state : σ} :
    inner.push version element store.inner = (.ok next, state) →
      (inner.releasedIn κ).push handle element store =
        (.ok ({ store with inner := state }.keep next).1,
          ({ store with inner := state }.keep next).2)
  push_error (element : Element) {error : AdapterError} {state : σ} :
    inner.push version element store.inner = (.error error, state) →
      (inner.releasedIn κ).push handle element store =
        (.error error, { store with inner := state })
  read {answer : Except AdapterError (List Element)} {state : σ} :
    inner.read version store.inner = (answer, state) →
      (inner.releasedIn κ).read handle store = (answer, { store with inner := state })
  release {answer : Except AdapterError Unit} {state : σ} :
    inner.release version store.inner = (answer, state) →
      (inner.releasedIn κ).release handle store =
        (answer, { store with inner := state }.vacate handle.slot)

omit [LawfulSlotStore κ] in
theorem refuses_of_lookup {inner : Adapter σ η} (hlookup : store.lookup handle = none) :
    store.Refuses inner handle where
  push element := by simp only [Adapter.releasedIn, hlookup]
  read := by simp only [Adapter.releasedIn, hlookup]
  release := by simp only [Adapter.releasedIn, hlookup]

omit [LawfulSlotStore κ] in
theorem actsOn_of_lookup {inner : Adapter σ η} (hlookup : store.lookup handle = some version) :
    store.ActsOn inner handle version where
  push_ok element _ _ hpush := by simp only [Adapter.releasedIn, hlookup, hpush]
  push_error element _ _ hpush := by simp only [Adapter.releasedIn, hlookup, hpush]
  read hread := by simp only [Adapter.releasedIn, hlookup, hread]
  release hrelease := by simp only [Adapter.releasedIn, hlookup, hrelease, vacate]

end ReleasedStore

/-- Whatever steps a client takes with the handles of a released store, in whatever order and with
second references to handles that were given back: the answers are those of the ledger that stores
every version under the next number and never uses a number again. At every moment a handle whose
number was given back is refused, any other handle acts on the version that was stored under its
number, and as many versions are outstanding as numbers were not given back. -/
theorem released_session_follows_ledger [LawfulSlotStore κ] (inner : Adapter σ η) (start : σ)
    (steps : List SessionStep) :
    let real := Session.run (inner.releasedIn κ) steps { state := .ofInner start }
    let ideal := Session.run inner.ledger steps { state := .start start }
    let store := real.2.state
    let ledger := ideal.2.state
    real.1.map (SessionAnswer.map ReleasedHandle.id) = ideal.1 ∧
      store.inner = ledger.inner ∧
      store.nextId = ledger.stored.length ∧
      (inner.releasedIn κ).outstanding store =
        some (ledger.stored.length - ledger.returned.length) ∧
      ledger.returned.Nodup ∧
      (∀ number ∈ ledger.returned, number < ledger.stored.length) ∧
      ∀ place handle, real.2.handle? place = some handle →
        (handle.id ∈ ledger.returned → store.Refuses inner handle) ∧
          (handle.id ∉ ledger.returned → ∃ version,
            ledger.stored[handle.id]? = some version ∧ store.ActsOn inner handle version) := by
  intro real ideal store ledger
  have hstart : (ReleasedStore.simulation κ inner).SessionsAgree
      { state := .ofInner start } { state := .start start } :=
    ⟨ReleasedStore.refines_ofInner start, rfl, fun _ ↦ by simp [Session.handle?]⟩
  obtain ⟨hanswers, hsessions⟩ := hstart.run ReleasedHandle.id id
    (fun hhandle ↦ hhandle.id_eq) steps (fun step _ ↦ by cases step <;> first | exact rfl | trivial)
  have hstore : store.Refines ledger := hsessions.states
  refine ⟨by simpa using hanswers, hstore.inner_eq, hstore.nextId_eq, ?_, hstore.returned_nodup,
    fun _ ↦ hstore.lt_of_mem_returned, ?_⟩
  · have hlive := hstore.live_add_returned
    refine congrArg some ?_
    omega
  · intro place handle hplace
    have hhandle : store.Means ledger handle handle.id := by
      obtain ⟨number, -, hmeans⟩ := optionRel_some_left (hplace ▸ hsessions.handle? place)
      have hmeans : store.Means ledger handle number := hmeans
      exact hmeans.id_eq ▸ hmeans
    have hlookup := hhandle.lookup_eq
    constructor
    · intro hreturned
      rw [VersionLedger.version?, if_pos hreturned] at hlookup
      exact ReleasedStore.refuses_of_lookup hlookup
    · intro hlive
      have hstored := List.getElem?_eq_getElem hhandle.lt_length
      rw [VersionLedger.version?, if_neg hlive, hstored] at hlookup
      exact ⟨_, hstored, ReleasedStore.actsOn_of_lookup hlookup⟩

/-- A second reference to a version that was given back stays stale after its slot was taken. -/
theorem released_session_slot_reused :
    (Session.run (Adapter.persistent "vector").released
        [.empty, .copy 0, .push 0 1, .release 0, .push 2 2, .read 1, .push 1 3, .release 1, .read 3]
        { state := .ofInner 0 }).1.map (SessionAnswer.map ReleasedHandle.id) =
      [.issued 0 0, .issued 1 0, .issued 2 1, .released, .issued 3 2,
        .failed (.protocol (.useAfterRelease 0)), .failed (.protocol (.useAfterRelease 0)),
        .failed (.protocol (.doubleRelease 0)), .contents [1, 2]] :=
  (released_session_follows_ledger (Adapter.persistent "vector") 0
    [.empty, .copy 0, .push 0 1, .release 0, .push 2 2, .read 1, .push 1 3, .release 1,
      .read 3]).1.trans rfl

/-- The error of a push does not say whether the handle is stale, since the inner adapter may give
the same error for a version that is live. -/
theorem not_push_refused_iff_stale :
    ¬ ∀ (inner : Adapter FaultyUse (List Element)) (steps : List SessionStep) (place : Nat)
      (handle : ReleasedHandle) (element : Element), inner.kind = .collected →
      let session := (Session.run inner.released steps { state := .ofInner {} }).2
      session.handle? place = some handle →
        ((inner.released.push handle element session.state).1 =
            .error (.protocol (.useAfterRelease handle.id)) ↔
          session.state.lookup handle = none) := by
  intro h
  let inner := Adapter.faulty "vector" .collected none
    { pushError := some (0, .protocol (.useAfterRelease 0)) }
  have hiff := h inner [.empty] 0 ⟨0, 0⟩ 7 rfl rfl
  cases hiff.mp rfl

end PushBench
