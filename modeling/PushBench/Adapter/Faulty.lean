import PushBench.Adapter.Basic
import PushBench.Number.Power

/-!
# Faulty adapters

Plain sequences with injected faults: pushes that fail, append the wrong elements or none, releases
and reads that fail, and reports that are wrong.
-/

namespace PushBench

/-- What goes wrong in a faulty adapter. -/
structure Faults where
  /-- The elements of the empty version, which should have none. -/
  initial : List Element := []
  /-- What is added to every element that is pushed, modulo `2 ^ 32`. -/
  offset : Nat := 0
  /-- How often an element is appended. -/
  copies : Nat := 1
  /-- An element that is not appended at all. -/
  dropped : Option Element := none
  /-- The push of this number, counted from zero, and its error. -/
  pushError : Option (Nat × AdapterError) := none
  /-- The release of this number, counted from zero, and its error. -/
  releaseError : Option (Nat × AdapterError) := none
  /-- The error of every read. -/
  readError : Option AdapterError := none
  /-- The number of versions that are reported as not given back. -/
  outstanding : Option Nat := none

/-- How often a faulty adapter was used. -/
structure FaultyUse where
  pushes : Nat := 0
  releases : Nat := 0
  deriving DecidableEq, Repr

/-- The answer of the operation with a number, if one number is to fail. -/
def answerAt (fault : Option (Nat × AdapterError)) (number : Nat) : Except AdapterError Unit :=
  match fault with
  | some (failing, error) => if failing = number then .error error else .ok ()
  | none => .ok ()

/-- A version after a push with faults. The newest element stands first. -/
def Faults.append (faults : Faults) (version : List Element) (element : Element) :
    List Element :=
  if faults.dropped = some element then version
  else List.replicate faults.copies ((element + faults.offset) % twoPow 32) ++ version

/-- Sequences with faults under a name. -/
def Adapter.faulty (name : String) (kind : AdapterKind) (maxLen : Option Nat) (faults : Faults) :
    Adapter FaultyUse (List Element) where
  name
  kind
  maxLen
  empty use := (faults.initial.reverse, use)
  push version element use :=
    ((answerAt faults.pushError use.pushes).map fun _ ↦ faults.append version element,
      { use with pushes := use.pushes + 1 })
  release _ use :=
    (answerAt faults.releaseError use.releases, { use with releases := use.releases + 1 })
  read version use :=
    match faults.readError with
    | some error => (.error error, use)
    | none => (.ok version.reverse, use)
  outstanding _ := faults.outstanding

end PushBench
