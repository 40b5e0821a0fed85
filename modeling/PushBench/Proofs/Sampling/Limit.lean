import PushBench.Sampling.Sampler

/-!
# Limits of samples

The limit on the number of samples decides whether there is an answer, and never which one.
-/

namespace PushBench.Sampler

universe u

variable {α : Type} [Scalar α] {ω : Type u} {subject : Subject ω}

theorem sampleUntilOver_of_le {limit limit' : Nat} (hlimit : limit ≤ limit') {sampler : Sampler α}
    {world after : ω} {answer : Except CaseError (Measurement α)}
    (h : sampleUntilOver subject limit sampler world = (some answer, after)) :
    sampleUntilOver subject limit' sampler world = (some answer, after) := by
  induction limit generalizing limit' sampler world with
  | zero => cases h
  | succ limit ih =>
    cases limit' with
    | zero => cases hlimit
    | succ limit' =>
      rw [sampleUntilOver] at h ⊢
      split at h
      next => exact h
      next taken between htaken =>
        split at h
        next => exact h
        next => exact ih (Nat.le_of_succ_le_succ hlimit) h

theorem measure_of_le {limit limit' : Nat} (hlimit : limit ≤ limit')
    {settings : SamplingSettings α} {world after : ω} {answer : Except CaseError (Measurement α)}
    (h : measure settings subject limit world = (some answer, after)) :
    measure settings subject limit' world = (some answer, after) := by
  rw [measure] at h ⊢
  split at h
  next => exact h
  next => exact sampleUntilOver_of_le hlimit h

end PushBench.Sampler
