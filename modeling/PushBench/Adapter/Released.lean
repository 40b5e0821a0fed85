import PushBench.Adapter.Basic
import PushBench.Adapter.Slots
import PushBench.Text.Quoted

/-!
# Released stores

A store that owns the versions of another adapter and hands out handles to them that have to be
given back. A handle is a slot and a number that is never used again, so a handle that was given
back stays recognisable after its slot is taken by another version.
-/

namespace PushBench

/-- A reference to a stored version. -/
structure ReleasedHandle where
  slot : Nat
  id : Nat
  deriving DecidableEq, Repr

/-- A stored version and the number of its handle. -/
structure StoredVersion (η : Type) where
  id : Nat
  version : η

/-- The state of a released store over an adapter with state `σ` and handles `η`, which keeps its
versions in slots of the kind `κ`. -/
structure ReleasedStore (σ η : Type) (κ : Type → Type := Slots) where
  inner : σ
  versions : κ (StoredVersion η)
  /-- The number of the next handle. -/
  nextId : Nat

namespace ReleasedStore

variable {σ η : Type} {κ : Type → Type} [SlotStore κ]

/-- An empty store over an adapter's state. -/
def ofInner (inner : σ) : ReleasedStore σ η κ := ⟨inner, SlotStore.empty, 0⟩

/-- How many versions are stored. -/
def live (store : ReleasedStore σ η κ) : Nat := SlotStore.size store.versions

/-- The version that a handle refers to, unless the handle is stale. -/
def lookup (store : ReleasedStore σ η κ) (handle : ReleasedHandle) : Option η :=
  match SlotStore.get? store.versions handle.slot with
  | some stored => if stored.id = handle.id then some stored.version else none
  | none => none

/-- Stores a version under a new handle. -/
def keep (store : ReleasedStore σ η κ) (version : η) : ReleasedHandle × ReleasedStore σ η κ :=
  let (slot, versions) := SlotStore.insert store.versions ⟨store.nextId, version⟩
  (⟨slot, store.nextId⟩, { store with versions, nextId := store.nextId + 1 })

/-- The store as it is shown for inspection. -/
def inspect (name : String) (store : ReleasedStore σ η κ) : String :=
  "Released \x7b name: " ++ String.ofList (Quoted.encode name.toList) ++
    s!", live: {store.live}, .. " ++ "\x7d"

end ReleasedStore

namespace Adapter

variable {σ η : Type}

/-- Released handles over an adapter, with the versions in slots of the kind `κ`. -/
def releasedIn (κ : Type → Type) [SlotStore κ] (inner : Adapter σ η) :
    Adapter (ReleasedStore σ η κ) ReleasedHandle where
  name := inner.name ++ "-Released"
  kind := .manual
  maxLen := inner.maxLen
  empty store :=
    let (version, state) := inner.empty store.inner
    { store with inner := state }.keep version
  push handle element store :=
    match store.lookup handle with
    | none => (.error (.protocol (.useAfterRelease handle.id)), store)
    | some version =>
      match inner.push version element store.inner with
      | (.error error, state) => (.error error, { store with inner := state })
      | (.ok next, state) =>
        let (issued, store) := { store with inner := state }.keep next
        (.ok issued, store)
  release handle store :=
    match store.lookup handle with
    | none => (.error (.protocol (.doubleRelease handle.id)), store)
    | some version =>
      let (answer, state) := inner.release version store.inner
      (answer,
        { store with
          inner := state, versions := SlotStore.erase store.versions handle.slot })
  read handle store :=
    match store.lookup handle with
    | none => (.error (.protocol (.useAfterRelease handle.id)), store)
    | some version =>
      let (answer, state) := inner.read version store.inner
      (answer, { store with inner := state })
  outstanding store := some store.live
  charged store := inner.charged store.inner

/-- Released handles over an adapter. -/
def released (inner : Adapter σ η) : Adapter (ReleasedStore σ η) ReleasedHandle :=
  inner.releasedIn Slots

end Adapter

end PushBench
