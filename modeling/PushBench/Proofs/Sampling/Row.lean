import PushBench.Proofs.Sampling.Accounting

/-!
# Sampling as a row of invocations

Whatever a sampler decides, it does nothing to the world but to invoke the body over and over, and
it stops where the body fails. What is known of invocations in a row is therefore known of sampling:
which answers the body gave, and that two bodies that agree at first are sampled alike at first.
-/

namespace PushBench

universe u

variable {α : Type} [Scalar α] {ω : Type u} {subject : Subject ω}

/-! ## Rows -/

namespace Sampler

variable {settings : SamplingSettings α} {sampler taken : Sampler α} {limit : Nat}
  {start world after : ω}

/-- How the invocations end that lead to an answer of the sampling loop. -/
def rowEnd : Option (Except CaseError (Measurement α)) → Except CaseError Unit
  | some (.error error) => .error error
  | _ => .ok ()

theorem one_le_batch_of_takeSample
    (h : sampler.takeSample subject world = (.ok (), taken, after)) : 1 ≤ taken.batch := by
  rcases takeSample_cases h with ⟨-, ⟨error, hanswer, -⟩ | ⟨-, rfl⟩⟩
  · cases hanswer
  · exact one_le_batchFor _ _

/-- The samples of a loop are taken in one row of invocations. If the loop is not over, there was at
least one invocation for every sample. -/
theorem exists_row_of_sampleUntilOver (hbatch : 1 ≤ sampler.batch)
    {answer : Option (Except CaseError (Measurement α))}
    (h : sampleUntilOver subject limit sampler world = (answer, after)) :
    ∃ count, subject.invokeTimes count world = (rowEnd answer, after) ∧
      (answer = none → limit ≤ count) := by
  induction limit generalizing sampler world with
  | zero =>
    cases h
    exact ⟨0, rfl, fun _ ↦ Nat.le_refl 0⟩
  | succ limit ih =>
    rw [sampleUntilOver] at h
    split at h
    next error taken between htake =>
      cases h
      exact ⟨sampler.batch, (takeSample_cases htake).1, fun hnone ↦ by cases hnone⟩
    next taken between htake =>
      have hcalls := (takeSample_cases htake).1
      split at h
      next convergence hconvergence =>
        cases h
        exact ⟨sampler.batch, hcalls, fun hnone ↦ by cases hnone⟩
      next hopen =>
        obtain ⟨count, hrow, hcount⟩ := ih (one_le_batch_of_takeSample htake) h
        refine ⟨sampler.batch + count, ?_, fun hnone ↦ ?_⟩
        · rw [Subject.invokeTimes_add hcalls]
          exact hrow
        · have := hcount hnone
          omega

/-- The whole loop is one row of invocations, which starts with the warm-up. -/
theorem exists_row_of_measure {answer : Option (Except CaseError (Measurement α))}
    (h : measure settings subject limit start = (answer, after)) :
    ∃ count, subject.invokeTimes count start = (rowEnd answer, after) ∧
      (answer = none → limit < count) := by
  rw [measure] at h
  split at h
  next error sized warmed hwarmUp =>
    cases h
    have hinvoke := Subject.invokeTimes_one.trans (warmUp_cases hwarmUp).1
    exact ⟨1, hinvoke, fun hnone ↦ by cases hnone⟩
  next sized warmed hwarmUp =>
    obtain ⟨hinvoke, -, hfollows⟩ := Follows.of_warmUp hwarmUp
    have hbatch := hfollows.one_le_batch (one_le_batchFor settings _)
    obtain ⟨count, hrow, hcount⟩ := exists_row_of_sampleUntilOver hbatch h
    refine ⟨1 + count, ?_, fun hnone ↦ ?_⟩
    · rw [Subject.invokeTimes_add (Subject.invokeTimes_one.trans hinvoke)]
      exact hrow
    · have := hcount hnone
      omega

end Sampler

/-! ## Answers of a row -/

/-- The answers of invocations in a row that ended with an answer: all succeeded, but for the last
one if the row failed. -/
inductive Subject.Log.EndsIn : Except CaseError Unit → Subject.Log → Prop where
  | nil : EndsIn (.ok ()) []
  | failed (error : CaseError) : EndsIn (.error error) [.error error]
  | cons {answer : Except CaseError Unit} {answers : Subject.Log} (hrest : EndsIn answer answers) :
    EndsIn answer (.ok () :: answers)

theorem Subject.exists_logged_invokeTimes_eq {count : Nat} {world after : ω}
    {answer : Except CaseError Unit} (h : subject.invokeTimes count world = (answer, after))
    (log : Log) :
    ∃ answers, subject.logged.invokeTimes count (world, log) = (answer, after, log ++ answers) ∧
      Log.EndsIn answer answers := by
  induction count generalizing world log with
  | zero =>
    cases h
    exact ⟨[], by rw [List.append_nil]; rfl, .nil⟩
  | succ count ih =>
    unfold invokeTimes at h ⊢
    split at h
    next between hinvoke =>
      obtain ⟨answers, hrest, hends⟩ := ih h (log ++ [.ok ()])
      refine ⟨.ok () :: answers, ?_, hends.cons⟩
      rw [List.append_assoc] at hrest
      simp only [logged, hinvoke]
      exact hrest
    next error between hinvoke =>
      cases h
      refine ⟨[.error error], ?_, .failed error⟩
      simp only [logged, hinvoke]

/-- The body was invoked until the loop was over, and the error of the loop is the answer of the
last invocation. -/
theorem Sampler.exists_logged_measure_eq {settings : SamplingSettings α} {limit : Nat}
    {start after : ω} {answer : Except CaseError (Measurement α)}
    (h : measure settings subject limit start = (some answer, after)) :
    ∃ answers, measure settings subject.logged limit (start, []) = (some answer, after, answers) ∧
      Subject.Log.EndsIn (rowEnd (some answer)) answers := by
  have hworlds : subject.loggedSimulation.worlds (start, []) start := rfl
  have hagree := subject.loggedSimulation.measure hworlds settings limit
  rcases hlogged : measure settings subject.logged limit (start, []) with ⟨answer', after', log⟩
  rw [hlogged, h] at hagree
  obtain ⟨hanswer, hafter⟩ := hagree
  have hanswer : answer' = some answer := hanswer
  have hafter : after' = after := hafter
  subst hanswer hafter
  obtain ⟨count, hrow, -⟩ := exists_row_of_measure hlogged
  have hplain : subject.invokeTimes count start = (rowEnd (some answer), after') := by
    have hsame := subject.loggedSimulation.invokeTimes hworlds count
    rw [hrow] at hsame
    exact Prod.ext hsame.answers.symm hsame.worlds.symm
  obtain ⟨answers, hanswers, hends⟩ := Subject.exists_logged_invokeTimes_eq hplain []
  rw [hrow] at hanswers
  obtain rfl : log = answers := (Prod.mk.inj (Prod.mk.inj hanswers).2).2
  exact ⟨log, rfl, hends⟩

/-! ## Bodies that agree at first -/

/-- Two bodies on the same clock that do the same until a number of invocations has been made. -/
structure Subject.AgreeBelow (left right : Subject ω) (calls : ω → Nat) (bound : Nat) : Prop where
  now_eq : right.now = left.now
  calls_lt (world : ω) : calls world < calls (left.invoke world).2
  invoke_eq {world : ω} : calls world < bound → right.invoke world = left.invoke world

namespace Subject.AgreeBelow

variable {left right : Subject ω} {calls : ω → Nat} {bound : Nat}

theorem calls_le (h : left.AgreeBelow right calls bound) (count : Nat) (world : ω) :
    calls world ≤ calls (left.invokeTimes count world).2 := by
  induction count generalizing world with
  | zero => exact Nat.le_refl _
  | succ count ih =>
    have hlt := h.calls_lt world
    unfold Subject.invokeTimes
    split
    next hinvoke =>
      rw [hinvoke] at hlt
      exact Nat.le_trans (Nat.le_of_lt hlt) (ih _)
    next hinvoke =>
      rw [hinvoke] at hlt
      exact Nat.le_of_lt hlt

theorem invokeTimes (h : left.AgreeBelow right calls bound) {count : Nat} {world : ω}
    (hcalls : calls (left.invokeTimes count world).2 ≤ bound) :
    right.invokeTimes count world = left.invokeTimes count world := by
  induction count generalizing world with
  | zero => rfl
  | succ count ih =>
    have hlt := h.calls_lt world
    have hinvoke : calls (left.invoke world).2 ≤ bound → right.invoke world = left.invoke world :=
      fun hle ↦ h.invoke_eq (Nat.lt_of_lt_of_le hlt hle)
    unfold Subject.invokeTimes at hcalls ⊢
    rcases hleft : left.invoke world with ⟨answer, between⟩
    rw [hleft] at hinvoke hcalls
    cases answer with
    | error error => rw [hinvoke hcalls]
    | ok done =>
      rw [hinvoke (Nat.le_trans (h.calls_le count between) hcalls)]
      exact ih hcalls

theorem takeSample (h : left.AgreeBelow right calls bound) {sampler : Sampler α} {world : ω}
    (hcalls : calls (sampler.takeSample left world).2.2 ≤ bound) :
    sampler.takeSample right world = sampler.takeSample left world := by
  rcases htake : sampler.takeSample left world with ⟨answer, taken, after⟩
  rw [htake] at hcalls
  have hrow := (Sampler.takeSample_cases htake).1
  have hsame : right.invokeTimes sampler.batch world = left.invokeTimes sampler.batch world := by
    apply h.invokeTimes
    rwa [hrow]
  rw [← htake, Sampler.takeSample, Sampler.takeSample, hsame, h.now_eq]

theorem calls_le_sampleUntilOver (h : left.AgreeBelow right calls bound) {sampler : Sampler α}
    (hbatch : 1 ≤ sampler.batch) (limit : Nat) (world : ω) :
    calls world ≤ calls (Sampler.sampleUntilOver left limit sampler world).2 := by
  rcases hloop : Sampler.sampleUntilOver left limit sampler world with ⟨answer, after⟩
  obtain ⟨count, hrow, -⟩ := Sampler.exists_row_of_sampleUntilOver hbatch hloop
  have hle := h.calls_le count world
  rwa [hrow] at hle

theorem sampleUntilOver (h : left.AgreeBelow right calls bound) {limit : Nat} {sampler : Sampler α}
    {world : ω} (hbatch : 1 ≤ sampler.batch)
    (hcalls : calls (Sampler.sampleUntilOver left limit sampler world).2 ≤ bound) :
    Sampler.sampleUntilOver right limit sampler world =
      Sampler.sampleUntilOver left limit sampler world := by
  induction limit generalizing sampler world with
  | zero => rfl
  | succ limit ih =>
    have hsame : calls (sampler.takeSample left world).2.2 ≤ bound →
        sampler.takeSample right world = sampler.takeSample left world := h.takeSample
    unfold Sampler.sampleUntilOver at hcalls ⊢
    rcases htake : sampler.takeSample left world with ⟨answer, taken, between⟩
    rw [htake] at hsame hcalls
    cases answer with
    | error error => rw [hsame hcalls]
    | ok done =>
      dsimp only at hsame hcalls
      rw [h.now_eq]
      cases hconvergence : taken.convergence (left.now between) with
      | some convergence =>
        rw [hconvergence] at hcalls
        rw [hsame hcalls]
        simp only [hconvergence]
      | none =>
        rw [hconvergence] at hcalls
        have htaken := Sampler.one_le_batch_of_takeSample htake
        rw [hsame (Nat.le_trans (h.calls_le_sampleUntilOver htaken limit between) hcalls)]
        simp only [hconvergence]
        exact ih htaken hcalls

/-- If a measurement needs no more invocations than two bodies agree for, they are measured
alike. -/
theorem measure (h : left.AgreeBelow right calls bound) {settings : SamplingSettings α}
    {limit : Nat} {start : ω}
    (hcalls : calls (Sampler.measure settings left limit start).2 ≤ bound) :
    Sampler.measure settings right limit start = Sampler.measure settings left limit start := by
  have hlt := h.calls_lt start
  have hinvoke : calls (left.invoke start).2 ≤ bound → right.invoke start = left.invoke start :=
    fun hle ↦ h.invoke_eq (Nat.lt_of_lt_of_le hlt hle)
  unfold Sampler.measure Sampler.warmUp at hcalls ⊢
  rcases hleft : left.invoke start with ⟨answer, warmed⟩
  rw [hleft] at hinvoke hcalls
  cases answer with
  | error error => rw [hinvoke hcalls]
  | ok done =>
    dsimp only at hcalls
    have hbatch : 1 ≤ ((Sampler.start settings).sizedBy
        (Scalar.ofNat (left.now warmed - left.now start) : α)).batch :=
      Sampler.one_le_batchFor settings _
    rw [hinvoke (Nat.le_trans (h.calls_le_sampleUntilOver hbatch limit warmed) hcalls), h.now_eq]
    exact h.sampleUntilOver hbatch hcalls

end Subject.AgreeBelow

end PushBench
