import SignOn.Dispatch.Submit

/-! # Runs of the dispatcher

A worker takes a job and its controllers go to work; some time later they are done, with a value,
with a failure, or by breaking off. A run is a row of such steps and of calls from outside, in any
order. A step that does not apply changes nothing. -/

namespace SignOn

open Failure (Payload)

/-- How the controllers of a command ended. -/
abbrev Outcome := Except Payload (Except Failure CommandValue)

/-- How a command ends whose controllers ended so. -/
def statusOf (outcome : Outcome) (correlationId : String) : CommandStatus :=
  match outcome with
  | .ok value => classify value correlationId
  | .error payload => .failed (.ofBreak payload)

namespace Dispatcher

variable {κ : Type}

/-- A free worker of a pool takes a job; an interactive command is granted the slot of the
registry. -/
def startJob? (d : Dispatcher κ) (kind : LaneKind) (pool : Nat) :
    Option (Execution κ × Dispatcher κ) :=
  match (d.lane kind).start? pool with
  | none => none
  | some (job, lane) =>
    let d := d.withLane kind lane
    match kind with
    | .silent =>
      let e : Execution κ := ⟨job, kind, pool, none⟩
      some (e, { d with executions := d.executions ++ [e] })
    | .interactive =>
      let (session, registry) := d.registry.acquire job.submission.command.correlationId
      let e : Execution κ := ⟨job, kind, pool, some session⟩
      some (e, { d with registry, executions := d.executions ++ [e] })

/-- Keeps the result of an execution that others may share, if it may be handed out again, and takes
the execution out of those under way. -/
def keepResult (d : Dispatcher κ) (key : Option CommandKey) (result : CommandResult)
    (now : Moment) : Dispatcher κ :=
  match key with
  | none => d
  | some k =>
    let d :=
      if result.status.isCacheable then { d with results := d.results.put k result now } else d
    d.leaveFlight key

/-- The controllers of a job are done. An interactive command gives the slot back before it is told
its result. A silent one is told after those who attached to it. -/
def finishJob (d : Dispatcher κ) (ticket : Nat) (outcome : Outcome) (now : Moment) :
    Dispatcher κ :=
  match d.executions.find? fun e => e.job.submission.ticket = ticket with
  | none => d
  | some e =>
    let s := e.job.submission
    let result : CommandResult :=
      ⟨statusOf outcome s.command.correlationId, s.command.correlationId⟩
    let d := { d with executions :=
      d.executions.filter fun e => e.job.submission.ticket ≠ ticket }
    let d :=
      match e.session with
      | none => d
      | some session => { d with registry := d.registry.release session }
    let (listeners, d) := (d.keepResult e.job.key result now).resolve e.job.future result
    d.deliver (listeners.map (fun l => ⟨l, result⟩) ++ [⟨s, result⟩])
      (.freeWorker e.lane e.pool ticket)

/-- A session that nobody resolved in time. -/
def expireSession (d : Dispatcher κ) (session : Nat) : Dispatcher κ :=
  { d with registry := (d.registry.resolve session .cancelled).2 }

end Dispatcher

/-- A step of a run. -/
inductive Input (κ : Type) where
  | submitSilent (c : Command κ)
  | submitAndForget (c : Command κ)
  | beginInteractive (c : Command κ)
  | completeInteractive (k : Continuation)
  | stopSilent
  | resetSilent
  | shutdown
  | clearResults
  | goOn (place : Nat)
  | startJob (lane : LaneKind) (pool : Nat)
  | finishJob (ticket : Nat) (outcome : Outcome)
  | expireSession (session : Nat)
  | endCallback (strand : Nat) (brokeOff : Bool)
  | runPosted (place : Nat)

namespace Dispatcher

variable {κ : Type}

/-- The dispatcher after a step that is taken at a moment. -/
def step (d : Dispatcher κ) (now : Moment) : Input κ → Dispatcher κ
  | .submitSilent c => (d.submitSilent c now).2
  | .submitAndForget c => d.submitAndForget c
  | .beginInteractive c => d.beginInteractive c
  | .completeInteractive k => (d.completeInteractive k).2
  | .stopSilent => d.stopSilent.2
  | .resetSilent => d.resetSilent
  | .shutdown => d.shutdown
  | .clearResults => d.clearResults
  | .goOn place => d.goOn place
  | .startJob lane pool => ((d.startJob? lane pool).map Prod.snd).getD d
  | .finishJob ticket outcome => d.finishJob ticket outcome now
  | .expireSession session => d.expireSession session
  | .endCallback strand brokeOff => d.endCallback strand brokeOff
  | .runPosted place => d.runPosted place

/-- The dispatcher after a row of steps, each taken at its moment. -/
def run (d : Dispatcher κ) (inputs : List (Moment × Input κ)) : Dispatcher κ :=
  inputs.foldl (fun d i => d.step i.1 i.2) d

/-! ### Waiting for a result -/

/-- The failure of a caller who waited too long for the result of a silent command. -/
def lateResult : Failure :=
  .because Code.timedOut "Silent command did not finish within the synchronous timeout."
    .waitTimedOut

end Dispatcher

/-- Hands in a silent command and waits for its value, as long as the settings say. The dispatcher
is at a place of the surroundings. -/
def submitSilentSync {σ κ : Type} (place : Place σ (Dispatcher κ)) (clock : σ → Clock)
    (c : Command κ) : Flow σ CommandOutput := ExceptT.mk do
  let future ← Work.act fun s =>
    let (future, d) := (place.get s).submitSilent c (clock s).now
    (future, place.set d s)
  let result (s : σ) : Option CommandResult := ((place.get s).future future).value
  Work.look fun s =>
    match (clock s).deadline? (place.get s).settings.silentSyncTimeout with
    | none => .broken (.text SessionHandle.overflowMessage)
    | some deadline =>
      .wait (some deadline) (fun s => (result s).isSome || decide (deadline ≤ (clock s).uptime))
        fun s _ =>
          match result s with
          | some r => .ended (r.attributedTo c.correlationId).toExcept
          | none => .ended (.error Dispatcher.lateResult)

end SignOn
