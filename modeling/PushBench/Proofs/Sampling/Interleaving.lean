import PushBench.Proofs.Sampling.Row
import PushBench.Sampling.Steps

/-!
# Samplers in any order

The sampling loop warms up once and then takes one sample after the other. A sampler stays sound in
every other order as well: warm-ups and samples may alternate, each with a body of its own that may
fail at any invocation, and time may pass in between. A step that fails leaves nothing behind but
the time at which sampling was first attempted.
-/

namespace PushBench

universe u

variable {α : Type} [Scalar α] {ω : Type u} {now : ω → Nat}

/-- The body of a case: how it answers, and what it does to the world. -/
abbrev Body (ω : Type u) := ω → Except CaseError Unit × ω

/-- Something that happens to a sampler or around it. -/
inductive SamplerAction (ω : Type u) where
  | warmUp (body : Body ω)
  | takeSample (body : Body ω)
  /-- Something happens outside of the sampler. -/
  | wait (pass : ω → ω)

/-- The clock is never set back. -/
def SamplerAction.Advances (now : ω → Nat) : SamplerAction ω → Prop
  | .warmUp body => (Subject.mk now body).ClockAdvances
  | .takeSample body => (Subject.mk now body).ClockAdvances
  | .wait pass => ∀ world, now world ≤ now (pass world)

namespace Sampler

/-- Takes one action. -/
def act (now : ω → Nat) (sampler : Sampler α) (world : ω) :
    SamplerAction ω → Except CaseError Unit × Sampler α × ω
  | .warmUp body => sampler.warmUp ⟨now, body⟩ world
  | .takeSample body => sampler.takeSample ⟨now, body⟩ world
  | .wait pass => (.ok (), sampler, pass world)

/-- Takes actions one after the other, whatever they answer. -/
def actAll (now : ω → Nat) (sampler : Sampler α) (world : ω) (actions : List (SamplerAction ω)) :
    Sampler α × ω :=
  actions.foldl (fun state action ↦ (state.1.act now state.2 action).2) (sampler, world)

end Sampler

/-- A step with a scripted body as an action. -/
def SamplerStep.toAction (script : Script) : SamplerStep → SamplerAction Script.World
  | .warmUp => .warmUp script.subject.invoke
  | .takeSample => .takeSample script.subject.invoke
  | .wait nanoseconds => .wait fun world ↦ { world with clock := world.clock + nanoseconds }

/-- Steps with a scripted body are actions on its clock. -/
theorem Sampler.step_eq_act (script : Script) (sampler : Sampler α) (world : Script.World)
    (step : SamplerStep) :
    sampler.step script world step =
      sampler.act Script.World.clock world (step.toAction script) := by
  cases step <;> rfl

theorem SamplerStep.toAction_advances (script : Script) (step : SamplerStep) :
    (step.toAction script).Advances Script.World.clock := by
  cases step with
  | warmUp => exact fun _ ↦ Nat.le_add_right _ _
  | takeSample => exact fun _ ↦ Nat.le_add_right _ _
  | wait nanoseconds => exact fun _ ↦ Nat.le_add_right _ _

/-! ## The invariant -/

/-- What is true of a sampler at a time, in whatever order it was used. -/
structure Sampler.Consistent (settings : SamplingSettings α) (time : Nat) (sampler : Sampler α) :
    Prop where
  settings_eq : sampler.settings = settings
  statistics_eq : sampler.statistics = .ofSamples sampler.samples settings.confidence
  one_le_batch : 1 ≤ sampler.batch
  one_le_iterations {sample : Sample} : sample ∈ sampler.samples → 1 ≤ sample.iterations
  startedAt_le {started : Nat} : sampler.startedAt = some started → started ≤ time
  /-- The samples were taken one after the other since sampling was first attempted. -/
  sum_elapsed_le : (sampler.samples.map Sample.elapsed).sum ≤ sampler.elapsed time

namespace Sampler

variable {settings : SamplingSettings α} {sampler taken : Sampler α} {world after : ω}
  {time later started : Nat}

omit [Scalar α] in
theorem elapsed_of_startedAt (h : sampler.startedAt = some started) (time : Nat) :
    sampler.elapsed time = time - started := by
  simp only [elapsed, h]

theorem consistent_start (settings : SamplingSettings α) (time : Nat) :
    (start settings).Consistent settings time where
  settings_eq := rfl
  statistics_eq := rfl
  one_le_batch := Nat.le_refl 1
  one_le_iterations hmem := absurd hmem List.not_mem_nil
  startedAt_le hstarted := by cases hstarted
  sum_elapsed_le := Nat.zero_le _

namespace Consistent

/-- Time passes. -/
theorem wait (h : sampler.Consistent settings time) (hlater : time ≤ later) :
    sampler.Consistent settings later := by
  refine { h with startedAt_le := ?_, sum_elapsed_le := ?_ }
  · intro started hstarted
    exact Nat.le_trans (h.startedAt_le hstarted) hlater
  · apply Nat.le_trans h.sum_elapsed_le
    unfold elapsed
    split
    · exact Nat.sub_le_sub_right hlater _
    · exact Nat.le_refl 0

theorem sizedBy (h : sampler.Consistent settings time) (period : α) :
    (sampler.sizedBy period).Consistent settings time :=
  { h with one_le_batch := one_le_batchFor _ _ }

/-- Before the first attempt the samples of a sampler take up no time, so that it may start. -/
theorem startingAt (h : sampler.Consistent settings time) :
    (sampler.startingAt time).Consistent settings time := by
  cases hstarted : sampler.startedAt with
  | some started =>
    have hsame : sampler.startingAt time = sampler := by
      rw [Sampler.startingAt, hstarted, Option.getD_some, ← hstarted]
    rwa [hsame]
  | none =>
    have hnow : (sampler.startingAt time).startedAt = some time := by
      rw [Sampler.startingAt, hstarted, Option.getD_none]
    refine { h with startedAt_le := ?_, sum_elapsed_le := ?_ }
    · intro started hsome
      rw [hnow, Option.some.injEq] at hsome
      exact Nat.le_of_eq hsome.symm
    · have hsum := h.sum_elapsed_le
      simp only [elapsed, hstarted] at hsum
      exact Nat.le_trans hsum (Nat.zero_le _)

/-- A sample is recorded that took the time up to `later`. -/
theorem record (h : sampler.Consistent settings time) (hstarted : sampler.startedAt = some started)
    (hlater : time ≤ later) :
    (sampler.record ⟨later - time, sampler.batch⟩).Consistent settings later where
  settings_eq := h.settings_eq
  statistics_eq := by rw [← h.settings_eq]; rfl
  one_le_batch := one_le_batchFor _ _
  one_le_iterations {sample} hmem := by
    rcases List.mem_append.mp hmem with hold | hnew
    · exact h.one_le_iterations hold
    · rw [List.mem_singleton.mp hnew]
      exact h.one_le_batch
  startedAt_le hsome := Nat.le_trans (h.startedAt_le hsome) hlater
  sum_elapsed_le := by
    have hsum := h.sum_elapsed_le
    have hle := h.startedAt_le hstarted
    let sample : Sample := ⟨later - time, sampler.batch⟩
    have hrecorded : (sampler.record sample).startedAt = some started := hstarted
    rw [elapsed_of_startedAt hstarted] at hsum
    rw [elapsed_of_startedAt hrecorded]
    calc
      ((sampler.samples ++ [sample]).map Sample.elapsed).sum =
          (sampler.samples.map Sample.elapsed).sum + (later - time) := by simp [sample]
      _ ≤ (time - started) + (later - time) := Nat.add_le_add_right hsum _
      _ = later - started := by omega

/-- Every action leaves a sampler consistent, whether or not it fails. -/
theorem act (h : sampler.Consistent settings (now world)) {action : SamplerAction ω}
    (hclock : action.Advances now) :
    let outcome := sampler.act now world action
    outcome.2.1.Consistent settings (now outcome.2.2) := by
  cases action with
  | wait pass => exact h.wait (hclock world)
  | warmUp body =>
    rcases hwarmUp : sampler.warmUp ⟨now, body⟩ world with ⟨answer, sized, after⟩
    obtain ⟨hinvoke, hsized⟩ := warmUp_cases hwarmUp
    have hlater : now world ≤ now after := by
      have hadvance := hclock world
      rwa [hinvoke] at hadvance
    simp only [Sampler.act, hwarmUp]
    rcases hsized with ⟨error, -, rfl⟩ | ⟨-, rfl⟩
    · exact h.wait hlater
    · exact (h.wait hlater).sizedBy _
  | takeSample body =>
    rcases htake : sampler.takeSample ⟨now, body⟩ world with ⟨answer, taken, after⟩
    obtain ⟨hcalls, htaken⟩ := takeSample_cases htake
    have hlater : now world ≤ now after := by
      have hadvance := hclock.invokeTimes sampler.batch world
      rwa [hcalls] at hadvance
    simp only [Sampler.act, htake]
    rcases htaken with ⟨error, -, rfl⟩ | ⟨-, rfl⟩
    · exact h.startingAt.wait hlater
    · rw [Sample.ofBatch, Nat.max_eq_left h.one_le_batch]
      exact h.startingAt.record rfl hlater

theorem actAll (h : sampler.Consistent settings (now world)) {actions : List (SamplerAction ω)}
    (hclock : ∀ action ∈ actions, action.Advances now) :
    let state := sampler.actAll now world actions
    state.1.Consistent settings (now state.2) := by
  induction actions generalizing sampler world with
  | nil => exact h
  | cons action rest ih =>
    have hfirst := h.act (hclock action List.mem_cons_self)
    exact ih hfirst fun other hmem ↦ hclock other (List.mem_cons_of_mem _ hmem)

end Consistent

/-! ## The first attempt -/

/-- The first attempt to take a sample starts sampling, even if it fails. -/
theorem startedAt_takeSample (sampler : Sampler α) (now : ω → Nat) (world : ω) (body : Body ω) :
    (sampler.act now world (.takeSample body)).2.1.startedAt =
      some (sampler.startedAt.getD (now world)) := by
  rcases htake : sampler.takeSample ⟨now, body⟩ world with ⟨answer, taken, after⟩
  simp only [act, htake]
  rcases takeSample_cases htake with ⟨-, ⟨error, -, rfl⟩ | ⟨-, rfl⟩⟩
  · rfl
  · rfl

theorem startedAt_warmUp (sampler : Sampler α) (now : ω → Nat) (world : ω) (body : Body ω) :
    (sampler.act now world (.warmUp body)).2.1.startedAt = sampler.startedAt := by
  rcases hwarmUp : sampler.warmUp ⟨now, body⟩ world with ⟨answer, sized, after⟩
  simp only [act, hwarmUp]
  rcases warmUp_cases hwarmUp with ⟨-, ⟨error, -, rfl⟩ | ⟨-, rfl⟩⟩
  · rfl
  · rfl

theorem startedAt_actAll_of_untried (h : sampler.startedAt = none)
    {actions : List (SamplerAction ω)} (huntried : ∀ body, .takeSample body ∉ actions) :
    (sampler.actAll now world actions).1.startedAt = none := by
  induction actions generalizing sampler world with
  | nil => exact h
  | cons action rest ih =>
    have hrest : ∀ body, .takeSample body ∉ rest :=
      fun body hmem ↦ huntried body (List.mem_cons_of_mem _ hmem)
    apply ih _ hrest
    cases action with
    | warmUp body => rw [startedAt_warmUp, h]
    | takeSample body => exact absurd List.mem_cons_self (huntried body)
    | wait pass => exact h

/-- Once sampling was attempted, the time of the first attempt stays. -/
theorem startedAt_actAll_of_tried (h : sampler.startedAt = some started)
    (actions : List (SamplerAction ω)) :
    (sampler.actAll now world actions).1.startedAt = some started := by
  induction actions generalizing sampler world with
  | nil => exact h
  | cons action rest ih =>
    apply ih
    cases action with
    | warmUp body => rw [startedAt_warmUp, h]
    | takeSample body => rw [startedAt_takeSample, h, Option.getD_some]
    | wait pass => exact h

/-- Sampling counts as started when a sample was attempted for the first time. -/
theorem startedAt_actAll (h : sampler.startedAt = none) {before rest : List (SamplerAction ω)}
    {body : Body ω} (huntried : ∀ other, .takeSample other ∉ before) :
    (sampler.actAll now world (before ++ .takeSample body :: rest)).1.startedAt =
      some (now (sampler.actAll now world before).2) := by
  have hbefore : (sampler.actAll now world before).1.startedAt = none :=
    startedAt_actAll_of_untried h huntried
  rw [actAll, List.foldl_append, List.foldl_cons]
  apply startedAt_actAll_of_tried
  rw [startedAt_takeSample, ← actAll, hbefore, Option.getD_none]

/-! ## What a step does -/

/-- A warm-up with a body that gave the listed answers. -/
structure WarmsUp (sampler sized : Sampler α) (answer : Except CaseError Unit)
    (answers : Subject.Log) : Prop where
  answers_eq : answers = [answer]
  samples_eq : sized.samples = sampler.samples
  statistics_eq : sized.statistics = sampler.statistics
  batch_eq {error : CaseError} : answer = .error error → sized.batch = sampler.batch

/-- A sample of a body that gave the listed answers, during which the clock moved on. -/
structure TakesSample (sampler taken : Sampler α) (elapsed : Nat) (answer : Except CaseError Unit)
    (answers : Subject.Log) : Prop where
  /-- The first error of the body is the answer, and no invocation comes after it. -/
  endsIn : Subject.Log.EndsIn answer answers
  succeeded : answer = .ok () → taken.samples = sampler.samples ++ [⟨elapsed, sampler.batch⟩] ∧
    answers.length = sampler.batch
  failed {error : CaseError} : answer = .error error → taken.samples = sampler.samples ∧
    taken.statistics = sampler.statistics ∧ taken.batch = sampler.batch

variable {subject : Subject ω} {answer : Except CaseError Unit}

theorem exists_warmsUp {sized : Sampler α}
    (h : sampler.warmUp subject world = (answer, sized, after)) :
    ∃ answers, sampler.warmUp subject.logged (world, []) = (answer, sized, after, answers) ∧
      sampler.WarmsUp sized answer answers := by
  obtain ⟨hinvoke, hsized⟩ := warmUp_cases h
  have hlogged : subject.logged.invoke (world, []) = (answer, after, [answer]) := by
    simp only [Subject.logged, hinvoke, List.nil_append]
  refine ⟨[answer], ?_, ?_⟩
  · rcases hsized with ⟨error, rfl, rfl⟩ | ⟨rfl, rfl⟩
    · rw [warmUp, hlogged]
    · rw [warmUp, hlogged]
      rfl
  · rcases hsized with ⟨error, rfl, rfl⟩ | ⟨rfl, rfl⟩
    · exact ⟨rfl, rfl, rfl, fun _ ↦ rfl⟩
    · exact ⟨rfl, rfl, rfl, fun hfailed ↦ by cases hfailed⟩

theorem exists_takesSample (hbatch : 1 ≤ sampler.batch)
    (h : sampler.takeSample subject world = (answer, taken, after)) :
    ∃ answers, sampler.takeSample subject.logged (world, []) = (answer, taken, after, answers) ∧
      sampler.TakesSample taken (subject.now after - subject.now world) answer answers := by
  obtain ⟨hcalls, htaken⟩ := takeSample_cases h
  obtain ⟨answers, hlogged, hends⟩ := Subject.exists_logged_invokeTimes_eq hcalls []
  refine ⟨answers, ?_, hends, ?_, ?_⟩
  · rcases htaken with ⟨error, rfl, rfl⟩ | ⟨rfl, rfl⟩
    · rw [takeSample, hlogged]
      rfl
    · rw [takeSample, hlogged]
      rfl
  · rintro rfl
    rcases htaken with ⟨error, herror, -⟩ | ⟨-, rfl⟩
    · cases herror
    · rw [Subject.logged_invokeTimes hcalls [], List.nil_append, List.nil_append] at hlogged
      rw [Sample.ofBatch, Nat.max_eq_left hbatch, ← (Prod.mk.inj (Prod.mk.inj hlogged).2).2]
      exact ⟨rfl, List.length_replicate⟩
  · rintro error rfl
    rcases htaken with ⟨error, -, rfl⟩ | ⟨hok, -⟩
    · exact ⟨rfl, rfl, rfl⟩
    · cases hok

end Sampler

/-- In whatever order a sampler warms up and takes samples, with bodies that may fail at any
invocation, and whatever happens in between: as long as the clock is never set back, its statistics
are those of its samples, the next batch and every sample have at least one invocation, and the
samples take up no more time than has passed since the first attempt to take one. The time that has
passed is counted from that attempt, and is none before it. A step that fails answers the error of
the body, which is not invoked again, and leaves the samples, the statistics and the next batch as
they were. A sample that succeeds covers as many invocations as were announced. -/
theorem sampler_stays_consistent (settings : SamplingSettings α) (start : ω)
    {actions : List (SamplerAction ω)} (hclock : ∀ action ∈ actions, action.Advances now) :
    let fresh := Sampler.start settings
    let sampler := (fresh.actAll now start actions).1
    let world := (fresh.actAll now start actions).2
    sampler.Consistent settings (now world) ∧
      ((∀ body, .takeSample body ∉ actions) → sampler.elapsed (now world) = 0) ∧
      (∀ before body rest, actions = before ++ .takeSample body :: rest →
        (∀ other, .takeSample other ∉ before) →
          sampler.elapsed (now world) = now world - now (fresh.actAll now start before).2) ∧
      ∀ body : Body ω, let subject := Subject.mk now body
        (∀ answer sized after, sampler.warmUp subject world = (answer, sized, after) →
          ∃ answers, sampler.warmUp subject.logged (world, []) = (answer, sized, after, answers) ∧
            sampler.WarmsUp sized answer answers) ∧
        ∀ answer taken after, sampler.takeSample subject world = (answer, taken, after) →
          ∃ answers,
            sampler.takeSample subject.logged (world, []) = (answer, taken, after, answers) ∧
              sampler.TakesSample taken (now after - now world) answer answers := by
  intro fresh sampler world
  have hconsistent : sampler.Consistent settings (now world) :=
    (Sampler.consistent_start settings _).actAll hclock
  have hfresh : fresh.startedAt = none := rfl
  refine ⟨hconsistent, ?_, ?_, fun body ↦ ⟨?_, ?_⟩⟩
  · intro huntried
    have hstarted : sampler.startedAt = none := Sampler.startedAt_actAll_of_untried hfresh huntried
    rw [Sampler.elapsed, hstarted]
  · rintro before body rest rfl huntried
    exact Sampler.elapsed_of_startedAt (Sampler.startedAt_actAll hfresh huntried) _
  · intro answer sized after h
    exact Sampler.exists_warmsUp h
  · intro answer taken after h
    exact Sampler.exists_takesSample hconsistent.one_le_batch h

/-- The second sample is abandoned in its second invocation. It leaves the first one, and its time
is part of the time that has passed since the first one was started. -/
theorem sampler_stays_consistent_abandoned :
    let settings : SamplingSettings Float := ⟨25, 2, 100.0, 60, .standard⟩
    let script := Script.ofEvents #[10, 20] none [⟨6, .execution "worn out"⟩]
    let actions : List (SamplerAction Script.World) :=
      [.warmUp, .wait 5, .takeSample, .wait 7, .takeSample, .warmUp].map
        (SamplerStep.toAction script)
    let state := (Sampler.start settings).actAll Script.World.clock ⟨0, 0⟩ actions
    state.2 = ⟨7, 112⟩ ∧ state.1.samples = [⟨50, 3⟩] ∧ state.1.elapsed 112 = 97 ∧
      state.1.Consistent settings 112 := by
  intro settings script actions state
  have hclock : ∀ action ∈ actions, action.Advances Script.World.clock := by
    intro action hmem
    obtain ⟨step, -, rfl⟩ := List.mem_map.mp hmem
    exact step.toAction_advances script
  have hworld : ((Sampler.start settings).actAll Script.World.clock ⟨0, 0⟩ actions).2 =
      ⟨7, 112⟩ := by decide +kernel
  have hsamples : state.1.samples = [⟨50, 3⟩] := by decide +kernel
  obtain ⟨hconsistent, -, helapsed, -⟩ := sampler_stays_consistent settings ⟨0, 0⟩ hclock
  let waited : List (SamplerAction Script.World) :=
    [.warmUp, .wait 5].map (SamplerStep.toAction script)
  have hactions : actions = waited ++ .takeSample script.subject.invoke ::
      [.wait 7, .takeSample, .warmUp].map (SamplerStep.toAction script) := rfl
  have huntried : ∀ other, .takeSample other ∉ waited := by
    intro other
    simp [waited, SamplerStep.toAction]
  have hsince := helapsed waited _ _ hactions huntried
  have hstart : ((Sampler.start settings).actAll Script.World.clock ⟨0, 0⟩ waited).2 = ⟨1, 15⟩ := by
    decide +kernel
  rw [hworld, hstart] at hsince
  rw [hworld] at hconsistent
  exact ⟨hworld, hsamples, hsince, hconsistent⟩

end PushBench
