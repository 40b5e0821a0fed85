import PushBench.Adapter.Basic

/-!
# Ledgers of versions

The versions of an adapter under the numbers 0, 1, 2, ... in the order in which they were stored. A
ledger only grows: a number that was given back is marked and never stands for another version.
This is what handles that have to be given back are meant to do, said without slots.
-/

namespace PushBench

/-- The versions of an adapter with state `σ` and handles `η`, by number. -/
structure VersionLedger (σ η : Type) where
  inner : σ
  /-- Every version that was stored. The place of a version is its number. -/
  stored : List η
  /-- The numbers that were given back. -/
  returned : List Nat

namespace VersionLedger

variable {σ η : Type}

/-- The ledger before the first version. -/
def start (inner : σ) : VersionLedger σ η := ⟨inner, [], []⟩

/-- The version of a number, unless the number was given back. -/
def version? (ledger : VersionLedger σ η) (number : Nat) : Option η :=
  if number ∈ ledger.returned then none else ledger.stored[number]?

/-- Stores a version under the next number. -/
def enter (ledger : VersionLedger σ η) (version : η) : Nat × VersionLedger σ η :=
  (ledger.stored.length, { ledger with stored := ledger.stored ++ [version] })

/-- How many numbers were not given back. -/
def outstanding (ledger : VersionLedger σ η) : Nat :=
  ledger.stored.length - ledger.returned.length

theorem version?_enter (ledger : VersionLedger σ η) (version : η) {number : Nat}
    (hnumber : number < ledger.stored.length) :
    (ledger.enter version).2.version? number = ledger.version? number := by
  simp only [version?, enter, List.getElem?_append_left hnumber]

theorem version?_returned (ledger : VersionLedger σ η) (number other : Nat) :
    { ledger with returned := number :: ledger.returned }.version? other =
      if other = number then none else ledger.version? other := by
  by_cases hother : other = number
  · simp [version?, hother]
  · simp [version?, hother]

end VersionLedger

/-- The versions of an adapter by number. A number that was given back is refused. -/
def Adapter.ledger {σ η : Type} (inner : Adapter σ η) : Adapter (VersionLedger σ η) Nat where
  name := inner.name ++ "-Released"
  kind := .manual
  maxLen := inner.maxLen
  empty ledger :=
    let (version, state) := inner.empty ledger.inner
    { ledger with inner := state }.enter version
  push number element ledger :=
    match ledger.version? number with
    | none => (.error (.protocol (.useAfterRelease number)), ledger)
    | some version =>
      match inner.push version element ledger.inner with
      | (.error error, state) => (.error error, { ledger with inner := state })
      | (.ok next, state) =>
        let (issued, ledger) := { ledger with inner := state }.enter next
        (.ok issued, ledger)
  release number ledger :=
    match ledger.version? number with
    | none => (.error (.protocol (.doubleRelease number)), ledger)
    | some version =>
      let (answer, state) := inner.release version ledger.inner
      (answer, { ledger with inner := state, returned := number :: ledger.returned })
  read number ledger :=
    match ledger.version? number with
    | none => (.error (.protocol (.useAfterRelease number)), ledger)
    | some version =>
      let (answer, state) := inner.read version ledger.inner
      (answer, { ledger with inner := state })
  outstanding ledger := some ledger.outstanding
  charged ledger := inner.charged ledger.inner

end PushBench
