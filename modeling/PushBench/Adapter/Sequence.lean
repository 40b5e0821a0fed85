import PushBench.Adapter.Basic

/-!
# Shared sequences

The plainest persistent vector: a version is the list of its elements, the newest first, and shares
its tail with the version it was made from.
-/

namespace PushBench.Adapter

/-- Shared sequences under a name. A push charges `cost` nanoseconds; the state is what has been
charged. -/
def sequence (name : String) (cost : Nat) (maxLen : Option Nat) : Adapter Nat (List Element) where
  name
  kind := .collected
  maxLen
  empty charged := ([], charged)
  push version element charged := (.ok (element :: version), charged + cost)
  read version charged := (.ok version.reverse, charged)
  charged := id

/-- Shared sequences that charge nothing and have no limit. -/
def persistent (name : String) : Adapter Nat (List Element) := sequence name 0 none

end PushBench.Adapter
