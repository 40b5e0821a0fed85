import PushBench.Sampling.Sampler

/-!
# Scripted bodies

A script says for every invocation of a body how long it takes and how it ends. Scripted cases stand
in for real work where timing has to be repeatable.
-/

namespace PushBench

/-- One scripted invocation. -/
structure ScriptedCall where
  /-- Nanoseconds charged to the clock. -/
  cost : Nat
  /-- How the invocation fails, if it does. -/
  failure : Option CaseError
  /-- Whether an interrupt is raised. -/
  signals : Bool
  deriving DecidableEq, Repr

/-- What happens in the first, second, ... invocation, counted from zero. -/
abbrev Script := Nat → ScriptedCall

/-- Something that happens in the invocation of a number, counted from one. With the number zero it
happens in every invocation. -/
structure ScriptEvent (α : Type) where
  call : Nat
  value : α
  deriving Repr

/-- What happens after `calls` invocations. -/
def ScriptEvent.at? {α : Type} (event : ScriptEvent α) (calls : Nat) : Option α :=
  if event.call = 0 ∨ event.call = calls + 1 then some event.value else none

namespace Script

/-- The script of a body that always succeeds in the same time. -/
def steady (cost : Nat) : Script := fun _ ↦ ⟨cost, none, false⟩

/-- The invocation after `calls` others. -/
def invoke (script : Script) (calls : Nat) : Reply Unit Nat where
  answer :=
    match (script calls).failure with
    | some error => .error error
    | none => .ok ()
  elapsed := (script calls).cost
  signals := (script calls).signals
  state := calls + 1

/-- The script of a body that takes the given times in turn. It raises an interrupt before it fails,
and of two failures the first stands. -/
def ofEvents (costs : Array Nat) (interrupt : Option (ScriptEvent Unit))
    (failures : List (ScriptEvent CaseError)) : Script := fun calls ↦
  { cost := if costs.isEmpty then 0 else costs.getD (calls % costs.size) 0
    failure := failures.findSome? fun event ↦ event.at? calls
    signals := (interrupt.bind fun event ↦ event.at? calls).isSome }

/-- A body between two invocations, and the clock it is timed by. -/
structure World where
  calls : Nat
  clock : Nat
  deriving DecidableEq, Repr

/-- What a sampler times when it times a script. -/
def subject (script : Script) : Subject World where
  now := World.clock
  invoke world :=
    let reply := script.invoke world.calls
    (reply.answer, ⟨reply.state, world.clock + reply.elapsed⟩)

/-- A case that follows a script. -/
def toCase (name : String) (script : Script) : Case where
  name
  kind := none
  skipReason := none
  State := Nat
  state := 0
  invoke := script.invoke
  contents := none

end Script

/-- The case with every invocation taking the same time. -/
def Case.taking (cost : Nat) (case : Case) : Case :=
  { case with
    invoke := fun state ↦ { case.invoke state with elapsed := cost }
    contents := case.contents.map fun contents state ↦ { contents state with elapsed := cost } }

end PushBench
