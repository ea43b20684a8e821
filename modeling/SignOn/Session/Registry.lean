import SignOn.Session.Basic

/-! # The session registry

One slot, for the session of the interactive command that is under way. A session is granted the
slot with a number that no other session of the registry has, and gives it back by that number; so a
session whose slot was taken over cannot free it. Sessions that lost the slot are kept, because
those who wait in them still look there. -/

namespace SignOn

/-- The slot and every session that was ever granted it, the newest first. -/
structure Registry where
  active : Option Nat
  nextId : Nat
  timeout : Option Duration
  sessions : List Session
  deriving DecidableEq

namespace Registry

/-- A registry whose slot is free. -/
def new (timeout : Option Duration) : Registry := ⟨none, 1, timeout, []⟩

/-- The session with a number. -/
def session? (r : Registry) (id : Nat) : Option Session := r.sessions.find? fun s => s.id = id

/-- The session that holds the slot. -/
def activeSession? (r : Registry) : Option Session := r.active.bind r.session?

/-- Does a session hold the slot? -/
def isActive (r : Registry) : Bool := r.active.isSome

/-- Whether a signal resolves the session with a number, and the registry after it. -/
def resolve (r : Registry) (id : Nat) (signal : Signal) : Bool × Registry :=
  let change (s : Session) : Session := if s.id = id then (s.resolve signal).2 else s
  (((r.session? id).map fun s => (s.resolve signal).1).getD false,
    { r with sessions := r.sessions.map change })

/-- Whether there is a session in the slot to cancel, and the registry with it cancelled. -/
def cancelActive (r : Registry) : Bool × Registry :=
  match r.active with
  | some id => (true, (r.resolve id .cancelled).2)
  | none => (false, r)

/-- A new session in the slot, whoever had it before. -/
def grant (r : Registry) (correlationId : String) : Nat × Registry :=
  (r.nextId, { r with
    active := some r.nextId
    nextId := r.nextId + 1
    sessions := .opened r.nextId correlationId r.timeout :: r.sessions })

/-- A new session in the slot, if the slot is free. -/
def tryAcquire (r : Registry) (correlationId : String) : Option Nat × Registry :=
  if r.isActive then (none, r)
  else
    let (id, r) := r.grant correlationId
    (some id, r)

/-- A new session in the slot; the session that had it is cancelled. -/
def acquire (r : Registry) (correlationId : String) : Nat × Registry :=
  r.cancelActive.2.grant correlationId

/-- Whether the continuation resolves the session in the slot, and the registry after it. -/
def deliver (r : Registry) (continuation : Continuation) : Bool × Registry :=
  match r.active with
  | some id => r.resolve id (.completed continuation)
  | none => (false, r)

/-- The registry after the session with a number gave the slot back. -/
def release (r : Registry) (id : Nat) : Registry :=
  if r.active = some id then { r with active := none } else r

/-- The registry with the names of its parts, for messages that show it as data. -/
def shown (r : Registry) : String :=
  let timeout :=
    match r.timeout with
    | none => "None"
    | some t => "Some(" ++ t.shown ++ ")"
  "SessionRegistry \x7b active: " ++ Text.quotedOption (r.activeSession?.map (·.correlationId))
    ++ ", timeout: " ++ timeout ++ " \x7d"

end Registry

end SignOn
