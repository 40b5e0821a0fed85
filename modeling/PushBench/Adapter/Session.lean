import PushBench.Workload

/-!
# Sessions

A session drives an adapter step by step. Handles are kept in numbered places: every new handle
takes the next one, and giving a handle back empties its place.
-/

namespace PushBench

/-- A step of a session. Handles are named by their places. -/
inductive SessionStep where
  | empty
  | push (place : Nat) (element : Element)
  /-- A second reference to the same version. -/
  | copy (place : Nat)
  | release (place : Nat)
  | read (place : Nat)
  | run (workload : Workload)
  | build (workload : Workload)
  | fits (workload : Workload)
  deriving DecidableEq, Repr

/-- The answer to a step. -/
inductive SessionAnswer (η : Type) where
  /-- A handle was put into a place. -/
  | issued (place : Nat) (handle : η)
  | released
  | contents (elements : List Element)
  | done
  | fitting (fits : Bool)
  /-- There is no handle in the place. -/
  | noHandle
  | failed (error : AdapterError)
  deriving Repr

/-- The answer with another view of its handle. -/
def SessionAnswer.map {η θ : Type} (view : η → θ) : SessionAnswer η → SessionAnswer θ
  | .issued place handle => .issued place (view handle)
  | .released => .released
  | .contents elements => .contents elements
  | .done => .done
  | .fitting fits => .fitting fits
  | .noHandle => .noHandle
  | .failed error => .failed error

@[simp]
theorem SessionAnswer.map_id {η : Type} : (SessionAnswer.map id : SessionAnswer η → _) = id := by
  funext answer
  cases answer <;> rfl

/-- An adapter's state and the handles in their places. -/
structure Session (σ η : Type) where
  state : σ
  handles : Array (Option η) := #[]

namespace Session

variable {σ η : Type}

/-- The handle in a place. -/
def handle? (session : Session σ η) (place : Nat) : Option η := session.handles[place]?.join

/-- Puts a handle into the next place. -/
def issue (session : Session σ η) (handle : η) : SessionAnswer η × Session σ η :=
  (.issued session.handles.size handle,
    { session with handles := session.handles.push (some handle) })

/-- Issues the handle of an operation, unless it failed. -/
def issueFrom (session : Session σ η) :
    Except AdapterError η × σ → SessionAnswer η × Session σ η
  | (.ok handle, state) => { session with state }.issue handle
  | (.error error, state) => (.failed error, { session with state })

/-- The answer to an operation in a session. -/
def conclude {α : Type} (session : Session σ η) (answer : α → SessionAnswer η) :
    Except AdapterError α × σ → SessionAnswer η × Session σ η
  | (.ok value, state) => (answer value, { session with state })
  | (.error error, state) => (.failed error, { session with state })

/-- Does something with the handle in a place. -/
def withHandle (session : Session σ η) (place : Nat)
    (act : η → SessionAnswer η × Session σ η) : SessionAnswer η × Session σ η :=
  match session.handle? place with
  | some handle => act handle
  | none => (.noHandle, session)

/-- Takes one step. -/
def step (adapter : Adapter σ η) (session : Session σ η) :
    SessionStep → SessionAnswer η × Session σ η
  | .empty =>
    let (handle, state) := adapter.empty session.state
    { session with state }.issue handle
  | .push place element =>
    session.withHandle place fun handle ↦
      session.issueFrom (adapter.push handle element session.state)
  | .copy place => session.withHandle place session.issue
  | .release place =>
    session.withHandle place fun handle ↦
      { session with handles := session.handles.setIfInBounds place none }.conclude
        (fun _ ↦ .released) (adapter.release handle session.state)
  | .read place =>
    session.withHandle place fun handle ↦
      session.conclude .contents (adapter.read handle session.state)
  | .run workload => session.conclude (fun _ ↦ .done) (workload.run adapter session.state)
  | .build workload => session.conclude .contents (workload.materialize adapter session.state)
  | .fits workload => (.fitting (workload.fits adapter), session)

/-- Takes steps one after the other. -/
def run (adapter : Adapter σ η) :
    List SessionStep → Session σ η → List (SessionAnswer η) × Session σ η
  | [], session => ([], session)
  | step :: steps, session =>
    let (answer, session) := session.step adapter step
    let (answers, session) := run adapter steps session
    (answer :: answers, session)

end Session

end PushBench
