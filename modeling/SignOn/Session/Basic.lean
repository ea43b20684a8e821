import SignOn.Session.Continuation
import SignOn.Time.Clock
import SignOn.Work.Basic

/-! # Interactive sessions

While a controller waits for the person, a session stands for that wait. It is resolved at most
once, by a continuation or by being cancelled, and whoever waits in it is told the same signal
however often they ask. A session may bound the wait; one that nobody resolved in time is cancelled,
so what comes late is passed over. -/

namespace SignOn

/-- One wait for the person. -/
structure Session where
  id : Nat
  correlationId : String
  timeout : Option Duration
  signal : Option Signal
  deriving DecidableEq

namespace Session

/-- A session that nobody has resolved. -/
def opened (id : Nat) (correlationId : String) (timeout : Option Duration) : Session :=
  ⟨id, correlationId, timeout, none⟩

/-- A session that belongs to no registry. -/
def standalone (correlationId : String) (timeout : Option Duration) : Session :=
  opened 0 correlationId timeout

/-- Has the session been resolved? -/
def isResolved (s : Session) : Bool := s.signal.isSome

/-- Whether the signal resolves the session, and the session after it. -/
def resolve (s : Session) (signal : Signal) : Bool × Session :=
  if s.isResolved then (false, s) else (true, { s with signal := some signal })

end Session

/-- A session as a controller holds it, wherever it is kept. -/
structure SessionHandle (σ : Type) where
  correlationId : String
  timeout : Option Duration
  signal : σ → Option Signal
  resolve : Signal → StateM σ Bool
  clock : σ → Clock

namespace SessionHandle

variable {σ : Type}

/-- What a wait says that cannot tell its deadline. -/
def overflowMessage : String := "overflow when adding duration to instant"

/-- The failure of a wait that took too long. -/
def lateFailure : Failure :=
  .because Code.timedOut "No interactive result arrived in time." .waitTimedOut

/-- The end of a bounded wait: the signal, or the failure of a wait that took too long, which
cancels the session. -/
def conclude (h : SessionHandle σ) : Action σ Signal := fun s =>
  match h.signal s with
  | some signal => (.ok signal, s)
  | none => (.error lateFailure, (h.resolve .cancelled s).2)

/-- Waits for the signal. -/
def wait (h : SessionHandle σ) : Flow σ Signal :=
  match h.timeout with
  | none => ExceptT.lift (Work.receive none h.signal)
  | some timeout => ExceptT.mk <| Work.look fun s =>
    match (h.clock s).deadline? timeout with
    | none => .broken (.text overflowMessage)
    | some deadline =>
      .wait (some deadline)
        (fun s => (h.signal s).isSome || decide (deadline ≤ (h.clock s).uptime))
        fun _ _ => Work.act h.conclude.run

end SessionHandle

end SignOn
