/-!
# Adapters

An adapter puts one implementation of persistent vectors behind four operations on handles: an
empty version, a push that yields a new version, giving a version back, and reading one. Every
operation acts on the adapter's own state.
-/

namespace PushBench

/-- What is pushed. -/
abbrev Element := Nat

/-- Who gives versions back. -/
inductive AdapterKind where
  /-- Versions are collected when nothing refers to them. -/
  | collected
  /-- Every version has to be given back once. -/
  | manual
  deriving DecidableEq, Repr

namespace AdapterKind

/-- Whether every version has to be given back. -/
def needsRelease : AdapterKind → Bool
  | .collected => false
  | .manual => true

/-- The kind as plans show it. -/
def text : AdapterKind → String
  | .collected => "gc"
  | .manual => "manual"

/-- The kind as it is written in JSON. -/
def tag : AdapterKind → String
  | .collected => "gc-managed"
  | .manual => "manually-released"

end AdapterKind

/-- A misuse of handles that have to be given back. -/
inductive ProtocolViolation where
  /-- A version was used after it was given back. -/
  | useAfterRelease (handle : Nat)
  /-- A version was given back twice. -/
  | doubleRelease (handle : Nat)
  /-- Versions were still live when they should all have been given back. -/
  | outstanding (live : Nat)
  deriving DecidableEq, Repr

/-- The text of a violation. -/
def ProtocolViolation.message : ProtocolViolation → String
  | .useAfterRelease handle => s!"handle {handle} used after release"
  | .doubleRelease handle => s!"handle {handle} released twice"
  | .outstanding live => s!"{live} handle(s) still live after the invocation completed"

/-- Why an adapter operation failed. -/
inductive AdapterError where
  | protocol (violation : ProtocolViolation)
  /-- The implementation holds at most `limit` elements. -/
  | capacity (limit : Nat)
  /-- The implementation itself failed. -/
  | backend (message : String)
  deriving DecidableEq, Repr

/-- The text of an adapter error. -/
def AdapterError.message : AdapterError → String
  | .protocol violation => violation.message
  | .capacity limit => s!"capacity exceeded: at most {limit} elements"
  | .backend message => message

/-- Operations on handles of type `η` over a state of type `σ`. -/
structure Adapter (σ η : Type) where
  name : String
  kind : AdapterKind
  /-- The greatest length that is supported, if there is one. -/
  maxLen : Option Nat := none
  empty : σ → η × σ
  push : η → Element → σ → Except AdapterError η × σ
  /-- Giving a version back is free where versions are collected. -/
  release : η → σ → Except AdapterError Unit × σ := fun _ state ↦ (.ok (), state)
  read : η → σ → Except AdapterError (List Element) × σ
  /-- How many versions have not been given back, if that is counted. -/
  outstanding : σ → Option Nat := fun _ ↦ none
  /-- Nanoseconds that the operations so far have charged to the clock. -/
  charged : σ → Nat := fun _ ↦ 0

end PushBench
