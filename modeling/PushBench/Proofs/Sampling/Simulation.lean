import PushBench.Sampling.Sampler

/-!
# Simulations between subjects

A sampler reads its clock to take differences of times only. Two subjects that answer alike, and
whose clocks differ by a constant, are therefore measured with the same result.
-/

namespace PushBench

universe u v

/-- Two subjects that a sampler cannot tell apart. The clock of the first is ahead by a constant. -/
structure Subject.Simulation {ω : Type u} {υ : Type v} (left : Subject ω) (right : Subject υ) where
  ahead : Nat
  worlds : ω → υ → Prop
  now_eq {world : ω} {world' : υ} : worlds world world' → left.now world = right.now world' + ahead
  answer_eq {world : ω} {world' : υ} : worlds world world' →
    (left.invoke world).1 = (right.invoke world').1
  worlds_invoke {world : ω} {world' : υ} : worlds world world' →
    worlds (left.invoke world).2 (right.invoke world').2

/-- The sampler as it is with a clock that is ahead. -/
def Sampler.delayed {α : Type} (sampler : Sampler α) (ahead : Nat) : Sampler α :=
  { sampler with startedAt := sampler.startedAt.map (· + ahead) }

namespace Sampler

variable {α : Type} [Scalar α] (sampler : Sampler α) (ahead now : Nat)

theorem delayed_sizedBy (period : α) :
    (sampler.delayed ahead).sizedBy period = (sampler.sizedBy period).delayed ahead := rfl

theorem delayed_record (sample : Sample) :
    (sampler.delayed ahead).record sample = (sampler.record sample).delayed ahead := rfl

omit [Scalar α] in
theorem delayed_startingAt :
    (sampler.delayed ahead).startingAt (now + ahead) = (sampler.startingAt now).delayed ahead := by
  cases hstarted : sampler.startedAt <;> simp [delayed, startingAt, hstarted]

omit [Scalar α] in
theorem elapsed_delayed : (sampler.delayed ahead).elapsed (now + ahead) = sampler.elapsed now := by
  cases hstarted : sampler.startedAt with
  | none => simp [delayed, elapsed, hstarted]
  | some time => simp [delayed, elapsed, hstarted, Nat.add_sub_add_right]

theorem convergence_delayed :
    (sampler.delayed ahead).convergence (now + ahead) = sampler.convergence now := by
  unfold convergence
  rw [elapsed_delayed]
  rfl

omit [Scalar α] in
theorem finish_delayed (convergence : Convergence) :
    (sampler.delayed ahead).finish convergence (now + ahead) = sampler.finish convergence now := by
  unfold finish
  rw [elapsed_delayed]
  rfl

end Sampler

namespace Subject.Simulation

variable {ω : Type u} {υ : Type v} {left : Subject ω} {right : Subject υ}
  (simulation : left.Simulation right) {world : ω} {world' : υ}

/-- Two outcomes agree: the answers are equal, and the worlds stay related. -/
structure Agree {β : Type} (outcome : β × ω) (outcome' : β × υ) : Prop where
  answers : outcome.1 = outcome'.1
  worlds : simulation.worlds outcome.2 outcome'.2

/-- Two steps of samplers agree: their answers are equal, the samplers differ in their clocks alone,
and the worlds stay related. -/
structure StepsAgree {α β : Type} (outcome : β × Sampler α × ω) (outcome' : β × Sampler α × υ) :
    Prop where
  answers : outcome.1 = outcome'.1
  samplers : outcome.2.1 = outcome'.2.1.delayed simulation.ahead
  worlds : simulation.worlds outcome.2.2 outcome'.2.2

theorem invoke (hworlds : simulation.worlds world world') :
    simulation.Agree (left.invoke world) (right.invoke world') :=
  ⟨simulation.answer_eq hworlds, simulation.worlds_invoke hworlds⟩

theorem invokeTimes (hworlds : simulation.worlds world world') (count : Nat) :
    simulation.Agree (left.invokeTimes count world) (right.invokeTimes count world') := by
  induction count generalizing world world' with
  | zero => exact ⟨rfl, hworlds⟩
  | succ count ih =>
    have hinvoke := simulation.invoke hworlds
    unfold Subject.invokeTimes
    rcases hleft : left.invoke world with ⟨answer, after⟩
    rcases hright : right.invoke world' with ⟨answer', after'⟩
    rw [hleft, hright] at hinvoke
    obtain ⟨rfl, hafter⟩ := hinvoke
    cases answer with
    | error error => exact ⟨rfl, hafter⟩
    | ok done => exact ih hafter

theorem elapsed_eq {after : ω} {after' : υ} (hworlds : simulation.worlds world world')
    (hafter : simulation.worlds after after') :
    left.now after - left.now world = right.now after' - right.now world' := by
  rw [simulation.now_eq hworlds, simulation.now_eq hafter, Nat.add_sub_add_right]

variable {α : Type} [Scalar α]

theorem warmUp (hworlds : simulation.worlds world world') (sampler : Sampler α) :
    simulation.StepsAgree ((sampler.delayed simulation.ahead).warmUp left world)
      (sampler.warmUp right world') := by
  have hinvoke := simulation.invoke hworlds
  unfold Sampler.warmUp
  rcases hleft : left.invoke world with ⟨answer, after⟩
  rcases hright : right.invoke world' with ⟨answer', after'⟩
  rw [hleft, hright] at hinvoke
  obtain ⟨rfl, hafter⟩ := hinvoke
  have helapsed := simulation.elapsed_eq hworlds hafter
  cases answer with
  | error error => exact ⟨rfl, rfl, hafter⟩
  | ok done =>
    refine ⟨rfl, ?_, hafter⟩
    dsimp only
    rw [helapsed, Sampler.delayed_sizedBy]

theorem takeSample (hworlds : simulation.worlds world world') (sampler : Sampler α) :
    simulation.StepsAgree ((sampler.delayed simulation.ahead).takeSample left world)
      (sampler.takeSample right world') := by
  have hbatch := simulation.invokeTimes hworlds sampler.batch
  have hstarted : (sampler.delayed simulation.ahead).startingAt (left.now world) =
      (sampler.startingAt (right.now world')).delayed simulation.ahead := by
    rw [simulation.now_eq hworlds, Sampler.delayed_startingAt]
  have hsame : (sampler.delayed simulation.ahead).batch = sampler.batch := rfl
  unfold Sampler.takeSample
  rw [hsame, hstarted]
  rcases hleft : left.invokeTimes sampler.batch world with ⟨answer, after⟩
  rcases hright : right.invokeTimes sampler.batch world' with ⟨answer', after'⟩
  rw [hleft, hright] at hbatch
  obtain ⟨rfl, hafter⟩ := hbatch
  have helapsed := simulation.elapsed_eq hworlds hafter
  cases answer with
  | error error => exact ⟨rfl, rfl, hafter⟩
  | ok done =>
    refine ⟨rfl, ?_, hafter⟩
    dsimp only
    rw [helapsed, Sampler.delayed_record]

theorem sampleUntilOver (hworlds : simulation.worlds world world') (limit : Nat)
    (sampler : Sampler α) :
    simulation.Agree
      (Sampler.sampleUntilOver left limit (sampler.delayed simulation.ahead) world)
      (Sampler.sampleUntilOver right limit sampler world') := by
  induction limit generalizing world world' sampler with
  | zero => exact ⟨rfl, hworlds⟩
  | succ limit ih =>
    have hstep := simulation.takeSample hworlds sampler
    unfold Sampler.sampleUntilOver
    rcases hleft : (sampler.delayed simulation.ahead).takeSample left world with
      ⟨answer, taken, after⟩
    rcases hright : sampler.takeSample right world' with ⟨answer', taken', after'⟩
    rw [hleft, hright] at hstep
    obtain ⟨hanswer, hsamplers, hafter⟩ := hstep
    dsimp only at hanswer hsamplers hafter
    subst hanswer hsamplers
    cases answer with
    | error error => exact ⟨rfl, hafter⟩
    | ok done =>
      dsimp only
      rw [simulation.now_eq hafter, Sampler.convergence_delayed]
      cases taken'.convergence (right.now after') with
      | none => exact ih hafter taken'
      | some convergence =>
        refine ⟨?_, hafter⟩
        dsimp only
        rw [Sampler.finish_delayed]

/-- The measurements of two subjects agree, down to the elapsed times. -/
theorem measure (hworlds : simulation.worlds world world') (settings : SamplingSettings α)
    (limit : Nat) :
    simulation.Agree (Sampler.measure settings left limit world)
      (Sampler.measure settings right limit world') := by
  have hstep := simulation.warmUp hworlds (Sampler.start settings)
  have hstart : (Sampler.start settings).delayed simulation.ahead = Sampler.start settings := rfl
  rw [hstart] at hstep
  unfold Sampler.measure
  rcases hleft : (Sampler.start settings).warmUp left world with ⟨answer, sized, after⟩
  rcases hright : (Sampler.start settings).warmUp right world' with ⟨answer', sized', after'⟩
  rw [hleft, hright] at hstep
  obtain ⟨hanswer, hsamplers, hafter⟩ := hstep
  dsimp only at hanswer hsamplers hafter
  subst hanswer hsamplers
  cases answer with
  | error error => exact ⟨rfl, hafter⟩
  | ok done => exact simulation.sampleUntilOver hafter limit sized'

end Subject.Simulation

end PushBench
