import PushBench.Workload
import PushBench.Text.Quoted

/-!
# Cases

A case is a named unit of work that is invoked over and over. A case made from an adapter runs the
append workload on it; after every invocation all versions must have been given back.
-/

namespace PushBench

/-- Why an invocation failed. -/
inductive CaseError where
  | releaseProtocol (violation : ProtocolViolation)
  /-- The body reported an error. -/
  | execution (message : String)
  /-- The body gave up altogether. -/
  | panicked (message : String)
  deriving DecidableEq, Repr

/-- The categories of failures in reports. -/
inductive FailureKind where
  | releaseProtocol
  | execution
  | panicked
  deriving DecidableEq, Repr

namespace FailureKind

/-- The category as it is displayed. -/
def text : FailureKind → String
  | .releaseProtocol => "release protocol"
  | .execution => "execution"
  | .panicked => "panic"

/-- The category as it is written in JSON. -/
def tag : FailureKind → String
  | .releaseProtocol => "release-protocol"
  | .execution => "execution"
  | .panicked => "panicked"

end FailureKind

namespace CaseError

/-- The category of an error. -/
def kind : CaseError → FailureKind
  | .releaseProtocol _ => .releaseProtocol
  | .execution _ => .execution
  | .panicked _ => .panicked

/-- The text of an error. -/
def message : CaseError → String
  | .releaseProtocol violation => "release protocol violation: " ++ violation.message
  | .execution message => message
  | .panicked message => "panicked: " ++ message

/-- An adapter's error as an error of the case that used it. -/
def ofAdapter : AdapterError → CaseError
  | .protocol violation => .releaseProtocol violation
  | other => .execution other.message

end CaseError

/-- The message of a panic that carried no text. -/
def unknownPanic : String := "Unknown panic"

/-- What a panic carries. -/
inductive PanicPayload where
  /-- A text that was fixed beforehand. -/
  | fixed (text : String)
  /-- A text that was put together when the panic arose. -/
  | composed (text : String)
  /-- Anything but a text. -/
  | other
  deriving DecidableEq, Repr

/-- The message of a panic: its text, if it carries one. -/
def PanicPayload.message : PanicPayload → String
  | .fixed text => text
  | .composed text => text
  | .other => unknownPanic

/-- What came of one invocation. -/
structure Reply (α σ : Type) where
  answer : Except CaseError α
  /-- Nanoseconds that the invocation charged to the clock. -/
  elapsed : Nat
  /-- Whether the invocation raised an interrupt. -/
  signals : Bool
  state : σ

/-- A named unit of work with the state it has come to. -/
structure Case : Type 1 where
  name : String
  /-- The kind of the adapter, for a case made from one. -/
  kind : Option AdapterKind
  /-- Why the case is not to be measured. -/
  skipReason : Option String
  State : Type
  state : State
  invoke : State → Reply Unit State
  /-- One invocation that also reads the contents, for a case made from an adapter. -/
  contents : Option (State → Reply (List Element) State)

/-- Fails if a version has not been given back. -/
def Adapter.checkReleased {σ η : Type} (adapter : Adapter σ η) (state : σ) :
    Except CaseError Unit :=
  match adapter.outstanding state with
  | some (live + 1) => .error (.releaseProtocol (.outstanding (live + 1)))
  | _ => .ok ()

namespace Case

variable {σ η : Type}

/-- What came of running a workload on an adapter: its answer, or the first error, or that versions
were left over. -/
def replyOf {α : Type} (adapter : Adapter σ η) (before : σ)
    (outcome : Except AdapterError α × σ) : Reply α σ where
  answer :=
    match outcome.1 with
    | .error error => .error (.ofAdapter error)
    | .ok answer => (adapter.checkReleased outcome.2).map fun _ ↦ answer
  elapsed := adapter.charged outcome.2 - adapter.charged before
  signals := false
  state := outcome.2

/-- Why a workload is too long for an adapter. -/
def skipReasonOf (adapter : Adapter σ η) (workload : Workload) : Option String :=
  match adapter.maxLen with
  | some limit =>
    if workload.fits adapter then none
    else some s!"{workload.len} pushes exceed the adapter limit of {limit}"
  | none => none

/-- A case that runs a workload on an adapter. It is to be skipped if the workload is too long. -/
def named (name : String) (adapter : Adapter σ η) (state : σ) (workload : Workload) : Case where
  name
  kind := some adapter.kind
  skipReason := skipReasonOf adapter workload
  State := σ
  state
  invoke state := replyOf adapter state (workload.run adapter state)
  contents := some fun state ↦ replyOf adapter state (workload.materialize adapter state)

/-- A case named after its adapter. -/
def ofAdapter (adapter : Adapter σ η) (state : σ) (workload : Workload) : Case :=
  named adapter.name adapter state workload

/-- Invokes a case once. -/
def run (case : Case) : Reply Unit Unit × Case :=
  let reply := case.invoke case.state
  ({ reply with state := () }, { case with state := reply.state })

/-- Invokes a case once and reads the contents, if the case was made from an adapter. -/
def materialize (case : Case) : Option (Reply (List Element) Unit × Case) :=
  case.contents.map fun contents ↦
    let reply := contents case.state
    ({ reply with state := () }, { case with state := reply.state })

/-- A kind as it is shown for inspection. -/
def inspectKind : Option AdapterKind → String
  | none => "None"
  | some .collected => "Some(GcManaged)"
  | some .manual => "Some(ManuallyReleased)"

/-- An optional text as it is shown for inspection. -/
def inspectText : Option String → String
  | none => "None"
  | some text => "Some(" ++ String.ofList (Quoted.encode text.toList) ++ ")"

/-- A case as it is shown for inspection. -/
def inspect (case : Case) : String :=
  "Case \x7b name: " ++ String.ofList (Quoted.encode case.name.toList) ++
    ", kind: " ++ inspectKind case.kind ++
    ", skip_reason: " ++ inspectText case.skipReason ++ ", .. " ++ "\x7d"

end Case

end PushBench
