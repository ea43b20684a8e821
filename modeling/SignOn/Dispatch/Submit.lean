import SignOn.Dispatch.Delivery

/-! # Handing in commands

A command that may be shared is answered from the result cache, attached to an execution under way
that asks for the same, or executed. An interactive command first cancels the session in the slot. A
lane that takes no commands has each of them fail at once. -/

namespace SignOn

namespace Dispatcher

variable {κ : Type}

/-- A command handed in: it gets a ticket, is counted, and its start is noted. -/
def enroll (d : Dispatcher κ) (c : Command κ) (lane : LaneKind) : Submission κ × Dispatcher κ :=
  let ticket := d.stats.submitted
  let d := { d with stats := { d.stats with submitted := ticket + 1 } }
  let d := d.count lane .attempt
  (⟨ticket, c, lane⟩, d.note ticket (.started c.apiId c.correlationId lane))

/-- The failure of a command whose lane takes no commands. -/
def rejection (lane : LaneKind) : Failure :=
  .plain Code.executorShutdown ("The " ++ lane.label ++ " lane is not accepting commands.")

/-- The result of a command whose lane takes no commands. -/
def rejected (s : Submission κ) : CommandResult :=
  ⟨.failed (rejection s.lane), s.command.correlationId⟩

/-- Gives a job to its lane. If the lane takes none, the command is told so, and only then is its
execution taken out of those under way. -/
def enqueue (d : Dispatcher κ) (job : Job κ) : Dispatcher κ :=
  let s := job.submission
  match (d.lane s.lane).submit? job with
  | some lane => d.withLane s.lane lane
  | none => d.deliver [⟨s, rejected s⟩] (.settle job.key job.future (rejected s))

/-- Answers a command from the cache. -/
def answerCached (d : Dispatcher κ) (s : Submission κ) (cached : CommandResult) :
    Nat × Dispatcher κ :=
  let c := s.command
  let result := cached.attributedTo c.correlationId
  let d := { d with stats := { d.stats with cacheHits := d.stats.cacheHits + 1 } }
  let d := d.note s.ticket (.cacheHit c.apiId c.correlationId)
  let (future, d) := d.addFuture (.completed result)
  (future, d.deliver [⟨s, result⟩] .nothing)

/-- Attaches a command to an execution under way. -/
def attach (d : Dispatcher κ) (s : Submission κ) (future : Nat) : Nat × Dispatcher κ :=
  let d := { d with stats := { d.stats with deduplicated := d.stats.deduplicated + 1 } }
  match (d.future future).whenComplete s with
  | (some result, _) => (future, d.deliver [⟨s, result⟩] .nothing)
  | (none, f) => (future, { d with futures := d.futures.set future f })

/-- Has a command executed that others may share. -/
def launch (d : Dispatcher κ) (s : Submission κ) (key : CommandKey) : Nat × Dispatcher κ :=
  let (future, d) := d.addFuture .pending
  let d := { d with inFlight := d.inFlight ++ [(key, future)] }
  (future, d.enqueue ⟨s, some key, some future⟩)

/-- Hands in a silent command; the number is that of the future of its result. -/
def submitSilent (d : Dispatcher κ) (c : Command κ) (now : Moment) : Nat × Dispatcher κ :=
  let (s, d) := d.enroll c .silent
  if c.isShareable then
    let (cached, results) := d.results.get c.key now
    let d := { d with results }
    match cached, d.inFlight.lookup c.key with
    | some result, _ => d.answerCached s result
    | none, some future => d.attach s future
    | none, none => d.launch s c.key
  else
    let (future, d) := d.addFuture .pending
    (future, d.enqueue ⟨s, none, some future⟩)

/-- Hands in a silent command that neither shares nor is waited for. -/
def submitAndForget (d : Dispatcher κ) (c : Command κ) : Dispatcher κ :=
  let (s, d) := d.enroll c .silent
  d.enqueue ⟨s, none, none⟩

/-- Cancels the session in the slot, and tells whether there was one. -/
def cancelActive (d : Dispatcher κ) : Bool × Dispatcher κ :=
  let (cancelled, registry) := d.registry.cancelActive
  (cancelled, { d with registry })

/-- Cancels the session in the slot for an interactive command; if there was one, this is counted
and noted. -/
def makeWay (d : Dispatcher κ) (s : Submission κ) : Dispatcher κ :=
  let (cancelled, d) := d.cancelActive
  if cancelled then
    { d with stats :=
        { d.stats with cancellationsBroadcast := d.stats.cancellationsBroadcast + 1 } }.note
      s.ticket (.cancelBroadcast s.command.correlationId)
  else d

/-- Hands in an interactive command; the session in the slot is cancelled for it. -/
def beginInteractive (d : Dispatcher κ) (c : Command κ) : Dispatcher κ :=
  let (s, d) := d.enroll c .interactive
  (d.makeWay s).enqueue ⟨s, none, none⟩

/-- Hands a continuation to the session in the slot, and tells whether it was taken. -/
def completeInteractive (d : Dispatcher κ) (k : Continuation) : Bool × Dispatcher κ :=
  let (taken, registry) := d.registry.deliver k
  (taken, { d with registry })

/-- Drops every cached result. -/
def clearResults (d : Dispatcher κ) : Dispatcher κ := { d with results := d.results.clear }

/-! ### Stopping lanes -/

/-- Is the pool, if there is one to wait for, done with its jobs? -/
def hasDrained (d : Dispatcher κ) (lane : LaneKind) : Option Nat → Bool
  | none => true
  | some pool => (d.lane lane).isIdle pool

/-- The silent lane takes no more commands; the number is that of the pool to wait for. -/
def stopSilent (d : Dispatcher κ) : Option Nat × Dispatcher κ :=
  (d.silent.open?, { d with silent := d.silent.close })

/-- The silent lane takes no more commands until it is done with those it has. -/
def resetSilent (d : Dispatcher κ) : Dispatcher κ :=
  let (pool, d) := d.stopSilent
  { d with continued := d.continued ++ [.reopenSilent pool] }

/-- The session in the slot is cancelled and the interactive lane takes no more commands; when it is
done with those it has, so does the silent lane. -/
def shutdown (d : Dispatcher κ) : Dispatcher κ :=
  let (_, d) := d.cancelActive
  { d with
    interactive := d.interactive.close
    continued := d.continued ++ [.closeSilent d.interactive.open?] }

/-- May the call go on? -/
def mayGoOn (d : Dispatcher κ) : Continued → Bool
  | .closeSilent after => d.hasDrained .interactive after
  | .reopenSilent after => d.hasDrained .silent after

/-- The call with a place in the row goes on, if it may. -/
def goOn (d : Dispatcher κ) (place : Nat) : Dispatcher κ :=
  match d.continued[place]? with
  | none => d
  | some call =>
    if d.mayGoOn call then
      let d := { d with continued := d.continued.eraseIdx place }
      match call with
      | .closeSilent _ => { d with silent := d.silent.close }
      | .reopenSilent _ => { d with silent := d.silent.reopen }
    else d

end Dispatcher

end SignOn
