import PushBench.Report.Console

/-!
# Rehearsals

Surroundings that act at set times and keep a record of what they heard: cancellation after a number
of cases, an interrupt at a question of a given number, and a console that takes lines or does not.
-/

namespace PushBench

/-- What surroundings do, and when. -/
structure RehearsalPlan where
  /-- Cancellation is asked for after this many outcomes. -/
  cancelAfter : Option Nat := none
  /-- The question that is answered by an interrupt, counted from one. Without a number nobody is
  asked. -/
  interruptAt : Option Nat := none
  /-- Whether the console takes no lines. -/
  consoleBroken : Bool := false
  deriving DecidableEq, Repr

/-- What was heard of a suite. -/
structure RehearsalRecord where
  console : String := ""
  /-- How many cases were announced. -/
  announced : Nat := 0
  /-- The names of the outcomes that were heard. -/
  finished : List String := []
  concluded : Bool := false
  /-- How often the source of interrupts was asked. -/
  polls : Nat := 0
  deriving DecidableEq, Repr

namespace RehearsalPlan

/-- The console of a plan. -/
def writer (plan : RehearsalPlan) : LineWriter String :=
  if plan.consoleBroken then .broken else .appending

/-- The record after an event. -/
def hear (plan : RehearsalPlan) (event : SuiteEvent Float) (record : RehearsalRecord) :
    RehearsalRecord :=
  let record := { record with console := plan.writer.announce event record.console }
  match event with
  | .started cases => { record with announced := cases }
  | .finished outcome => { record with finished := record.finished ++ [outcome.name] }
  | .concluded _ => { record with concluded := true }

/-- Whether a plan asks for cancellation at an event, after which the record stands. -/
def cancels (plan : RehearsalPlan) (record : RehearsalRecord) : SuiteEvent Float → Bool
  | .finished _ => plan.cancelAfter == some record.finished.length
  | _ => false

/-- The surroundings that follow a plan. -/
def surroundings (plan : RehearsalPlan) : Surroundings Float RehearsalRecord where
  notify event record :=
    let record := plan.hear event record
    (plan.cancels record event, record)
  poll _ record :=
    match plan.interruptAt with
    | none => (false, record)
    | some question =>
      (record.polls + 1 == question, { record with polls := record.polls + 1 })

end RehearsalPlan

end PushBench
