import SignOn.Rehearsal.Alone
import SignOn.Session.Registry

/-! # Trying out a registry

A registry and sessions of their own, each under a name. Who is granted the slot holds it under a
name until the name is given up or taken for another. -/

namespace SignOn.Rehearsal

/-- The clock, the registry, the sessions that hold or held its slot by name, and the sessions that
belong to no registry. -/
structure SessionTrial where
  clock : Clock
  registry : Registry
  guards : List (String × Nat)
  lone : List (String × Session)

namespace SessionTrial

/-- A trial in which nothing has happened. -/
def new (clock : Clock) (timeout : Option Duration) : SessionTrial :=
  ⟨clock, .new timeout, [], []⟩

/-- The clock. -/
def theClock : Place SessionTrial Clock :=
  { get := SessionTrial.clock, set := fun c t => { t with clock := c } }

/-- Gives up what is held under a name, and tells whether there was something. -/
def release (t : SessionTrial) (name : String) : Bool × SessionTrial :=
  match t.guards.lookup name with
  | none => (false, t)
  | some id => (true, { t with
      registry := t.registry.release id
      guards := t.guards.filter fun g => g.1 ≠ name })

/-- Holds a session of the registry under a name; what was held there before is given up. -/
def hold (t : SessionTrial) (name : String) (id : Nat) : SessionTrial :=
  let t := (t.release name).2
  { t with guards := (name, id) :: t.guards, lone := t.lone.filter fun s => s.1 ≠ name }

/-- Takes the slot, if it is free, and tells whether it was. -/
def tryAcquire (t : SessionTrial) (name correlationId : String) : Bool × SessionTrial :=
  match t.registry.tryAcquire correlationId with
  | (none, _) => (false, t)
  | (some id, registry) => (true, { t with registry }.hold name id)

/-- Takes the slot. -/
def acquire (t : SessionTrial) (name correlationId : String) : SessionTrial :=
  let (id, registry) := t.registry.acquire correlationId
  { t with registry }.hold name id

/-- A session that belongs to no registry. -/
def openLone (t : SessionTrial) (name correlationId : String) (timeout : Option Duration) :
    SessionTrial :=
  let t := (t.release name).2
  { t with lone :=
      (name, .standalone correlationId timeout) :: t.lone.filter fun s => s.1 ≠ name }

/-- The session of a name. -/
def session? (t : SessionTrial) (name : String) : Option Session :=
  match t.guards.lookup name with
  | some id => t.registry.session? id
  | none => t.lone.lookup name

/-- Resolves the session of a name, and tells whether that was the first time. -/
def resolve (name : String) (signal : Signal) : StateM SessionTrial Bool := fun t =>
  match t.guards.lookup name with
  | some id =>
    let (taken, registry) := t.registry.resolve id signal
    (taken, { t with registry })
  | none =>
    match t.lone.lookup name with
    | none => (false, t)
    | some session =>
      let (taken, session) := session.resolve signal
      (taken, { t with lone := (name, session) :: t.lone.filter fun s => s.1 ≠ name })

/-- The session of a name, as a controller holds it. -/
def handle (name : String) (session : Session) : SessionHandle SessionTrial where
  correlationId := session.correlationId
  timeout := session.timeout
  signal t := (t.session? name).bind (·.signal)
  resolve := resolve name
  clock := SessionTrial.clock

/-- Waits in the session of a name. -/
def wait (t : SessionTrial) (name : String) :
    Option (Except Failure.Payload (Except Failure Signal)) × SessionTrial :=
  match t.session? name with
  | none => (none, t)
  | some session => (handle name session).wait.run.alone theClock t

end SessionTrial

end SignOn.Rehearsal
