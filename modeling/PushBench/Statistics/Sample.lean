import PushBench.Number.Scalar

/-!
# Samples

A sample times a batch of invocations as a whole.
-/

namespace PushBench

/-- One timed batch. -/
structure Sample where
  /-- Nanoseconds from before the first invocation to after the last. -/
  elapsed : Nat
  /-- How many invocations the batch had. -/
  iterations : Nat
  deriving DecidableEq, Repr

namespace Sample

/-- A sample of at least one invocation. -/
def ofBatch (elapsed iterations : Nat) : Sample := ⟨elapsed, max iterations 1⟩

/-- Mean nanoseconds per invocation. -/
def period {α : Type} [Scalar α] (sample : Sample) : α :=
  Scalar.ofNat sample.elapsed / Scalar.ofNat sample.iterations

end Sample

end PushBench
