import PushBench.Proofs.Sampling.Simulation
import Mathlib.Algebra.GroupWithZero.Nat

/-!
# Calls of a body

How invocations follow each other, what they do to the clock, and a subject that writes every
answer of its body down.
-/

namespace PushBench

universe u

namespace Subject

variable {ω : Type u} (subject : Subject ω)

/-- The clock is never set back by the body. -/
def ClockAdvances : Prop := ∀ world, subject.now world ≤ subject.now (subject.invoke world).2

variable {subject} {world after : ω}

theorem invokeTimes_one : subject.invokeTimes 1 world = subject.invoke world := by
  unfold invokeTimes
  split
  next hinvoke => exact hinvoke.symm
  next hinvoke => exact hinvoke.symm

theorem invokeTimes_add {count : Nat} (h : subject.invokeTimes count world = (.ok (), after))
    (more : Nat) :
    subject.invokeTimes (count + more) world = subject.invokeTimes more after := by
  induction count generalizing world with
  | zero =>
    cases h
    rw [Nat.zero_add]
  | succ count ih =>
    rw [Nat.add_right_comm]
    rw [invokeTimes] at h ⊢
    split at h
    next hinvoke => exact ih h
    next => cases h

theorem ClockAdvances.invokeTimes (hclock : subject.ClockAdvances) (count : Nat) (world : ω) :
    subject.now world ≤ subject.now (subject.invokeTimes count world).2 := by
  induction count generalizing world with
  | zero => exact Nat.le_refl _
  | succ count ih =>
    have hinvoked := hclock world
    unfold Subject.invokeTimes
    split
    next hinvoke =>
      rw [hinvoke] at hinvoked
      exact Nat.le_trans hinvoked (ih _)
    next hinvoke =>
      rw [hinvoke] at hinvoked
      exact hinvoked

end Subject

/-! ## Steps of a sampler -/

namespace Sampler

variable {α : Type} [Scalar α] {ω : Type u} {subject : Subject ω} {sampler sized taken : Sampler α}
  {world after : ω} {answer : Except CaseError Unit}

/-- A warm-up invokes the body once, and does nothing else if that fails. -/
theorem warmUp_cases (h : sampler.warmUp subject world = (answer, sized, after)) :
    subject.invoke world = (answer, after) ∧
      ((∃ error, answer = .error error ∧ sized = sampler) ∨
        answer = .ok () ∧
          sized = sampler.sizedBy (Scalar.ofNat (subject.now after - subject.now world))) := by
  unfold warmUp at h
  split at h
  next hinvoke =>
    cases h
    exact ⟨hinvoke, .inl ⟨_, rfl, rfl⟩⟩
  next hinvoke =>
    cases h
    exact ⟨hinvoke, .inr ⟨rfl, rfl⟩⟩

/-- A sample notes when it was started and invokes the body in a row. It is recorded if the row
succeeds. -/
theorem takeSample_cases (h : sampler.takeSample subject world = (answer, taken, after)) :
    subject.invokeTimes sampler.batch world = (answer, after) ∧
      ((∃ error, answer = .error error ∧ taken = sampler.startingAt (subject.now world)) ∨
        answer = .ok () ∧ taken = (sampler.startingAt (subject.now world)).record
          (.ofBatch (subject.now after - subject.now world) sampler.batch)) := by
  unfold takeSample at h
  split at h
  next hcalls =>
    cases h
    exact ⟨hcalls, .inl ⟨_, rfl, rfl⟩⟩
  next hcalls =>
    cases h
    exact ⟨hcalls, .inr ⟨rfl, rfl⟩⟩

end Sampler

/-! ## Samples in a row -/

/-- Samples that were taken one right after the other, each from the world that the one before left:
every invocation of a sample succeeded, and its time is what the clock moved on by. -/
inductive Subject.Timed (subject : Subject ω) (start : ω) : List Sample → ω → Prop where
  | nil : Timed subject start [] start
  | concat {samples : List Sample} {sample : Sample} {world after : ω}
    (htimed : Timed subject start samples world)
    (hcalls : subject.invokeTimes sample.iterations world = (.ok (), after))
    (helapsed : sample.elapsed = subject.now after - subject.now world) :
    Timed subject start (samples ++ [sample]) after

namespace Subject.Timed

variable {subject : Subject ω} {start after : ω} {samples : List Sample}

theorem eq_start (h : subject.Timed start [] after) : after = start := by
  generalize hsamples : ([] : List Sample) = samples at h
  cases h with
  | nil => rfl
  | concat => simp at hsamples

/-- All invocations of the samples in one row. -/
theorem invokeTimes (h : subject.Timed start samples after) :
    subject.invokeTimes (samples.map Sample.iterations).sum start = (.ok (), after) := by
  induction h with
  | nil => rfl
  | @concat samples sample world after htimed hcalls helapsed ih =>
    rw [List.map_append, List.sum_append, invokeTimes_add ih]
    simpa using hcalls

/-- The samples take up all the time that passed. -/
theorem now_eq (hclock : subject.ClockAdvances) (h : subject.Timed start samples after) :
    subject.now after = subject.now start + (samples.map Sample.elapsed).sum := by
  induction h with
  | nil => rfl
  | @concat samples sample world after htimed hcalls helapsed ih =>
    have hadvance : subject.now world ≤ subject.now after := by
      have hbatch := hclock.invokeTimes sample.iterations world
      rw [hcalls] at hbatch
      exact hbatch
    calc
      subject.now after = subject.now world + sample.elapsed := by
        rw [helapsed, Nat.add_sub_cancel' hadvance]
      _ = subject.now start + (samples.map Sample.elapsed).sum + sample.elapsed := by rw [ih]
      _ = subject.now start + ((samples ++ [sample]).map Sample.elapsed).sum := by
        rw [List.map_append, List.sum_append, Nat.add_assoc]
        simp

end Subject.Timed

namespace Subject

variable {ω : Type u} {subject : Subject ω} {world after : ω}

/-! ## Written down answers -/

/-- The answers of a body so far. -/
abbrev Log := List (Except CaseError Unit)

/-- The subject that also writes every answer of its body down. -/
def logged (subject : Subject ω) : Subject (ω × Log) where
  now world := subject.now world.1
  invoke world :=
    let (answer, after) := subject.invoke world.1
    (answer, after, world.2 ++ [answer])

/-- Writing answers down changes nothing else. -/
def loggedSimulation (subject : Subject ω) : subject.logged.Simulation subject where
  ahead := 0
  worlds world world' := world.1 = world'
  now_eq h := congrArg subject.now h
  answer_eq h := by rw [← h]; rfl
  worlds_invoke h := by rw [← h]; rfl

theorem logged_invokeTimes {count : Nat} (h : subject.invokeTimes count world = (.ok (), after))
    (log : Log) :
    subject.logged.invokeTimes count (world, log) =
      (.ok (), after, log ++ List.replicate count (.ok ())) := by
  induction count generalizing world log with
  | zero =>
    cases h
    simp [invokeTimes]
  | succ count ih =>
    unfold invokeTimes at h ⊢
    split at h
    next between hinvoke =>
      simp only [logged, hinvoke]
      have hrest := ih h (log ++ [.ok ()])
      rw [List.append_assoc] at hrest
      exact hrest
    next => cases h

end Subject

end PushBench
