import PushBench.Workload

/-!
# Regular adapters

An adapter serves the append workload regularly if a version that is held answers as the elements it
stands for demand, and every push takes the same time. An invocation then answers the same and takes
the same time whenever it starts, whatever earlier invocations have left behind.
-/

namespace PushBench

variable {σ η : Type}

/-! ## Outcomes of operations -/

/-- What came of something that was done with an adapter: the answer, what holds afterwards, and how
much was charged to the clock. -/
structure Adapter.Yields {α : Type} (adapter : Adapter σ η) (before : σ)
    (outcome : Except AdapterError α × σ) (answer : Except AdapterError α) (cost : Nat)
    (holds : σ → Prop) : Prop where
  answer_eq : outcome.1 = answer
  holds : holds outcome.2
  charged_eq : adapter.charged outcome.2 = adapter.charged before + cost

namespace Adapter.Yields

variable {α : Type} {adapter : Adapter σ η} {before between : σ}
  {outcome : Except AdapterError α × σ} {answer : Except AdapterError α} {cost earlier : Nat}
  {holds : σ → Prop}

theorem eq_mk (h : adapter.Yields before outcome answer cost holds) :
    outcome = (answer, outcome.2) :=
  Prod.ext h.answer_eq rfl

/-- What was charged before comes to what is charged now. -/
theorem after (h : adapter.Yields between outcome answer cost holds)
    (hbetween : adapter.charged between = adapter.charged before + earlier) :
    adapter.Yields before outcome answer (cost + earlier) holds where
  answer_eq := h.answer_eq
  holds := h.holds
  charged_eq := by rw [h.charged_eq, hbetween, Nat.add_assoc, Nat.add_comm earlier]

end Adapter.Yields

/-! ## The course of pushes -/

namespace Workload

/-- How far pushes get. -/
structure Course where
  /-- How many pushes succeed. -/
  made : Nat
  /-- The error of the push after them, if that one is refused. -/
  refused : Option AdapterError

/-- The course of a number of pushes from an element on, where some elements are refused. -/
def courseFrom (refusal : Element → Option AdapterError) (next : Element) : Nat → Course
  | 0 => ⟨0, none⟩
  | count + 1 =>
    match refusal next with
    | some error => ⟨0, some error⟩
    | none =>
      let later := courseFrom refusal (next + 1) count
      { later with made := later.made + 1 }

/-- Where nothing is refused, all pushes are made. -/
theorem courseFrom_none (next : Element) (count : Nat) :
    courseFrom (fun _ ↦ none) next count = ⟨count, none⟩ := by
  induction count generalizing next with
  | zero => rfl
  | succ count ih => rw [courseFrom, ih]

/-- The answer of an invocation that has a course, and would answer with a value if nothing was
refused. -/
def Course.answer {α : Type} (course : Course) (value : α) : Except AdapterError α :=
  match course.refused with
  | some error => .error error
  | none => .ok value

/-- How an adapter serves a workload: pushes take a set time, and those of some elements are
refused. -/
structure Regularity (adapter : Adapter σ η) (cost : Nat)
    (refusal : Element → Option AdapterError) where
  /-- An invocation may start. -/
  ready : σ → Prop
  /-- A version is held that has a number of elements. -/
  one : η → Nat → σ → Prop
  /-- An older version is held beside a newer one, which has a number of elements. -/
  two : η → η → Nat → σ → Prop
  /-- An invocation has given back what it held. -/
  ended : σ → Prop
  ready_of_ended {state : σ} : ended state → ready state
  /-- Where versions are collected, giving them back does nothing. -/
  release_collected (hkind : adapter.kind = .collected) (handle : η) (state : σ) :
    adapter.release handle state = (.ok (), state)
  empty {state : σ} : ready state →
    one (adapter.empty state).1 0 (adapter.empty state).2 ∧
      adapter.charged (adapter.empty state).2 = adapter.charged state
  push_ok {handle : η} {count : Nat} {state : σ} : one handle count state →
    refusal count = none →
      ∃ newer, adapter.Yields state (adapter.push handle count state) (.ok newer) cost
        (two handle newer (count + 1))
  push_error {handle : η} {count : Nat} {state : σ} {error : AdapterError} :
    one handle count state → refusal count = some error →
      adapter.Yields state (adapter.push handle count state) (.error error) 0 (one handle count)
  read {handle : η} {count : Nat} {state : σ} : one handle count state →
    adapter.Yields state (adapter.read handle state) (.ok (List.range count)) 0 (one handle count)
  release_one {handle : η} {count : Nat} {state : σ} : one handle count state →
    adapter.Yields state (adapter.release handle state) (.ok ()) 0 ended
  release_older {older newer : η} {count : Nat} {state : σ} : two older newer count state →
    adapter.Yields state (adapter.release older state) (.ok ()) 0 (one newer count)

namespace Regularity

variable {adapter : Adapter σ η} {cost : Nat} {refusal : Element → Option AdapterError}
  (regularity : Regularity adapter cost refusal) {state : σ}

include regularity in
theorem retire_eq (handle : η) (state : σ) :
    adapter.retire handle state = adapter.release handle state := by
  unfold Adapter.retire
  cases hkind : adapter.kind with
  | collected =>
    rw [regularity.release_collected hkind]
    rfl
  | manual => rfl

/-- What came of pushes that should have led to a number of elements, by their course: the last
version is held, unless a push was refused. -/
inductive Built (before : σ) (len : Nat) (outcome : Except AdapterError η × σ) : Course → Prop where
  | refused {made : Nat} {error : AdapterError}
    (h : adapter.Yields before outcome (.error error) (cost * made) regularity.ended) :
    Built before len outcome ⟨made, some error⟩
  | held {made : Nat} {last : η}
    (h : adapter.Yields before outcome (.ok last) (cost * made) (regularity.one last len)) :
    Built before len outcome ⟨made, none⟩

theorem pushFrom {current : η} {next : Element} (h : regularity.one current next state)
    (count : Nat) :
    regularity.Built state (next + count) (adapter.pushFrom current next count state)
      (courseFrom refusal next count) := by
  induction count generalizing state current next with
  | zero => exact .held ⟨rfl, h, rfl⟩
  | succ count ih =>
    rw [Adapter.pushFrom, courseFrom]
    cases hrefusal : refusal next with
    | some error =>
      have hpush := regularity.push_error h hrefusal
      have hrelease := regularity.release_one hpush.holds
      rw [hpush.eq_mk]
      dsimp only
      rw [Adapter.abandon, regularity.retire_eq]
      exact .refused ⟨rfl, hrelease.holds, hrelease.charged_eq.trans hpush.charged_eq⟩
    | none =>
      obtain ⟨newer, hpush⟩ := regularity.push_ok h hrefusal
      have hrelease := regularity.release_older hpush.holds
      have hcharged := hrelease.charged_eq.trans hpush.charged_eq
      have hlater := ih hrelease.holds
      rw [hpush.eq_mk]
      dsimp only
      rw [regularity.retire_eq, hrelease.eq_mk]
      dsimp only
      rw [Nat.add_right_comm, Nat.add_assoc] at hlater
      generalize courseFrom refusal (next + 1) count = later at hlater
      cases hlater with
      | refused hlater => exact .refused (hlater.after hcharged)
      | held hlater => exact .held (hlater.after hcharged)

theorem build (h : regularity.ready state) (workload : Workload) :
    regularity.Built state workload.len (workload.build adapter state)
      (courseFrom refusal 0 workload.len) := by
  obtain ⟨hone, hcharged⟩ := regularity.empty h
  have hbuilt := regularity.pushFrom hone workload.len
  rw [Nat.zero_add] at hbuilt
  rw [Workload.build]
  generalize courseFrom refusal 0 workload.len = course at hbuilt ⊢
  cases hbuilt with
  | refused hbuilt =>
    exact .refused ⟨hbuilt.answer_eq, hbuilt.holds, by rw [hbuilt.charged_eq, hcharged]⟩
  | held hbuilt =>
    exact .held ⟨hbuilt.answer_eq, hbuilt.holds, by rw [hbuilt.charged_eq, hcharged]⟩

/-! ## Invocations -/

/-- An invocation answers by the course of its pushes, whenever it starts. -/
theorem run (h : regularity.ready state) (workload : Workload) :
    adapter.Yields state (workload.run adapter state)
      ((courseFrom refusal 0 workload.len).answer ())
      (cost * (courseFrom refusal 0 workload.len).made) regularity.ended := by
  have hbuilt := regularity.build h workload
  rw [Workload.run]
  generalize courseFrom refusal 0 workload.len = course at hbuilt ⊢
  cases hbuilt with
  | refused hbuilt =>
    rw [hbuilt.eq_mk]
    exact ⟨rfl, hbuilt.holds, hbuilt.charged_eq⟩
  | held hbuilt =>
    have hrelease := regularity.release_one hbuilt.holds
    rw [hbuilt.eq_mk]
    dsimp only
    rw [regularity.retire_eq]
    exact ⟨hrelease.answer_eq, hrelease.holds, hrelease.charged_eq.trans hbuilt.charged_eq⟩

/-- An invocation that reads the last version reads what was pushed, if nothing was refused. -/
theorem materialize (h : regularity.ready state) (workload : Workload) :
    adapter.Yields state (workload.materialize adapter state)
      ((courseFrom refusal 0 workload.len).answer workload.expected)
      (cost * (courseFrom refusal 0 workload.len).made) regularity.ended := by
  have hbuilt := regularity.build h workload
  rw [Workload.materialize]
  generalize courseFrom refusal 0 workload.len = course at hbuilt ⊢
  cases hbuilt with
  | refused hbuilt =>
    rw [hbuilt.eq_mk]
    exact ⟨rfl, hbuilt.holds, hbuilt.charged_eq⟩
  | @held made last hbuilt =>
    have hread := regularity.read hbuilt.holds
    have hrelease := regularity.release_one hread.holds
    have hcharged := hrelease.charged_eq.trans (hread.charged_eq.trans hbuilt.charged_eq)
    rcases hseen : adapter.read last (workload.build adapter state).2 with ⟨contents, seen⟩
    rw [hbuilt.eq_mk]
    simp only [hseen, regularity.retire_eq] at hread hrelease hcharged ⊢
    have hcontents : contents = .ok (List.range workload.len) := hread.answer_eq
    rw [hrelease.eq_mk, hcontents]
    exact ⟨rfl, hrelease.holds, hcharged⟩

end Regularity

end Workload

end PushBench
