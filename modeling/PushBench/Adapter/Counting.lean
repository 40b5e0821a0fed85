import PushBench.Adapter.Basic
import Std.Data.TreeMap
import Std.Data.TreeSet

/-!
# Counted handles

Shared sequences behind handles that have to be given back. The adapter keeps count of every handle
it issued and every release, and refuses handles that are not live.
-/

namespace PushBench

/-- A counted handle: its number and the version it stands for, the newest element first. -/
structure CountedHandle where
  id : Nat
  version : List Element
  deriving DecidableEq, Repr

/-- The books of an adapter that counts its handles. -/
structure HandleCounts where
  /-- How many handles have been issued; the next one gets this number. -/
  issued : Nat
  live : Std.TreeSet Nat
  /-- How often each handle has been given back. -/
  counts : Std.TreeMap Nat Nat
  /-- How many releases succeeded. -/
  releases : Nat

namespace HandleCounts

/-- The books before the first handle. -/
def start : HandleCounts := ⟨0, {}, {}, 0⟩

/-- Issues the next handle for a version. -/
def issue (books : HandleCounts) (version : List Element) : CountedHandle × HandleCounts :=
  (⟨books.issued, version⟩,
    { books with issued := books.issued + 1, live := books.live.insert books.issued })

/-- Refuses a handle that is not live. -/
def checkLive (books : HandleCounts) (handle : CountedHandle) : Except AdapterError Unit :=
  if books.live.contains handle.id then .ok ()
  else .error (.protocol (.useAfterRelease handle.id))

/-- Enters a release. Where releases are ignored the handle stays live. -/
def enterRelease (ignoring : Bool) (books : HandleCounts) (handle : CountedHandle) :
    HandleCounts :=
  { books with
    counts := books.counts.insert handle.id (books.counts.getD handle.id 0 + 1)
    releases := books.releases + 1
    live := if ignoring then books.live else books.live.erase handle.id }

end HandleCounts

/-- How counted handles are made to misbehave. -/
structure CountingFaults where
  /-- The push of this element fails. -/
  failPushAt : Option Element := none
  /-- Releases are accepted and change nothing. -/
  ignoreReleases : Bool := false

namespace Adapter

/-- Counted handles under a name. -/
def counting (name : String) (faults : CountingFaults) : Adapter HandleCounts CountedHandle where
  name
  kind := .manual
  empty books := books.issue []
  push handle element books :=
    match books.checkLive handle with
    | .error error => (.error error, books)
    | .ok () =>
      if faults.failPushAt = some element then
        (.error (.backend s!"injected failure at {element}"), books)
      else
        let (issued, books) := books.issue (element :: handle.version)
        (.ok issued, books)
  release handle books :=
    if books.counts.contains handle.id && !books.live.contains handle.id then
      (.error (.protocol (.doubleRelease handle.id)), books)
    else
      match books.checkLive handle with
      | .error error => (.error error, books)
      | .ok () => (.ok (), books.enterRelease faults.ignoreReleases handle)
  read handle books :=
    match books.checkLive handle with
    | .error error => (.error error, books)
    | .ok () => (.ok handle.version.reverse, books)
  outstanding books := some books.live.size

end Adapter

end PushBench
