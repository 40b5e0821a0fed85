import PushBench.Adapter.Basic

/-!
# Copied arrays

The baseline without sharing: a push copies the whole array, so the length is limited.
-/

namespace PushBench.Adapter

/-- The limit of copied arrays unless another is asked for. -/
def copyArrayLimit : Nat := 10000

/-- Arrays of at most `limit` elements. -/
def copyArray (limit : Nat) : Adapter Unit (Array Element) where
  name := "array"
  kind := .collected
  maxLen := some limit
  empty state := (#[], state)
  push version element state :=
    if version.size < limit then (.ok (version.push element), state)
    else (.error (.capacity limit), state)
  read version state := (.ok version.toList, state)

end PushBench.Adapter
