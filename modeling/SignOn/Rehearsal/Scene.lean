import SignOn.Rehearsal.Play

/-! # The steps of a script

Each call to the dispatcher, and each wait for what it set in motion, as work on the stage. -/

namespace SignOn.Rehearsal

open Stage

/-! ### Handing in -/

/-- The commands that the callback of the next command hands in when it is told of a failure. -/
def planRetry (chain : List (Command String)) : StateM Stage Unit := fun s =>
  if chain.isEmpty then ((), s)
  else ((), { s with retries := s.retries ++ [(s.dispatcher.stats.submitted, chain)] })

/-- Hands in a silent command; the number is that of its future. -/
def submitSilent (c : Command String) (retry : List (Command String)) : Work Stage Nat :=
  Work.act do
    planRetry retry
    fun s =>
      let (future, d) := s.dispatcher.submitSilent c s.clock.now
      (future, settleCallbacks (theDispatcher.set d s))

/-- Hands in a silent command and waits for its value. -/
def submitAndWait (c : Command String) (retry : List (Command String)) :
    Flow Stage CommandOutput := do
  ExceptT.lift (Work.act (planRetry retry))
  submitSilentSync theDispatcher Stage.clock c

/-- Changes the dispatcher, and has the callbacks that this starts run. -/
def change (f : Dispatcher String → Dispatcher String) : Work Stage Unit :=
  Work.act fun s => ((), settleCallbacks (changeDispatcher f s))

/-- Hands in a silent command that nobody waits for. -/
def submitAndForget (c : Command String) (retry : List (Command String)) : Work Stage Unit := do
  Work.act (planRetry retry)
  change fun d => d.submitAndForget c

/-- Hands in an interactive command. -/
def beginInteractive (c : Command String) (retry : List (Command String)) : Work Stage Unit := do
  Work.act (planRetry retry)
  change fun d => d.beginInteractive c

/-- Asks the dispatcher for something that changes it. -/
def askDispatcher {α : Type} (f : Dispatcher String → α × Dispatcher String) : Work Stage α :=
  Work.act (theDispatcher.lift f)

/-! ### Stopping -/

/-- Waits until something holds of the stage. -/
def waitUntil (holds : Stage → Bool) : Work Stage Unit :=
  .wait none holds fun _ _ => .ended ()

/-- Stops the silent lane and waits until it is done with its commands. -/
def stopSilent : Work Stage Unit := do
  let pool ← askDispatcher Dispatcher.stopSilent
  waitUntil fun s => s.dispatcher.hasDrained .silent pool

/-- Starts the silent lane anew. -/
def resetSilent : Work Stage Unit := do
  change Dispatcher.resetSilent
  waitUntil fun s => s.dispatcher.continued.isEmpty

/-- Stops both lanes and waits until they are done with their commands. -/
def shutdown : Work Stage Unit := do
  let pool ← askDispatcher fun d => (d.silent.open?, d.shutdown)
  waitUntil fun s =>
    s.dispatcher.continued.isEmpty && s.dispatcher.hasDrained .silent pool

/-! ### Waiting -/

/-- How many commands have been flushed. -/
def flushes (s : Stage) : Nat :=
  (s.dispatcher.journal.filter fun e => match e with
    | .flushed _ _ _ => true
    | _ => false).length

/-- How many events have been noted. -/
def events (s : Stage) : Nat :=
  (s.dispatcher.journal.filter fun e => match e with
    | .noted _ _ => true
    | _ => false).length + s.reports.length

/-- Waits until so many commands have been flushed. -/
def awaitFlushes (n : Nat) : Work Stage Unit := waitUntil fun s => n ≤ flushes s

/-- Waits until so many callbacks are posted. -/
def awaitPosted (n : Nat) : Work Stage Unit := waitUntil fun s => n ≤ s.dispatcher.posted.length

/-- Waits until the session of a command is in the slot. -/
def awaitActive (correlationId : String) : Work Stage Unit := waitUntil fun s =>
  (s.dispatcher.registry.activeSession?.map (·.correlationId)) = some correlationId

/-! ### The rest -/

/-- Runs the first `n` callbacks of the queue. -/
def runFirstPosted : Nat → Stage → Stage
  | 0, s => s
  | n + 1, s => runFirstPosted n (settleCallbacks (changeDispatcher (fun d => d.runPosted 0) s))

/-- Runs the callbacks that are posted, and tells how many there were. -/
def runPosted : Work Stage Nat :=
  Work.act fun s =>
    (s.dispatcher.posted.length, runFirstPosted s.dispatcher.posted.length s)

/-- Opens a gate, and tells whether it was closed. -/
def openGate (gate : String) : Work Stage Bool :=
  Work.act fun s => (!s.gates.contains gate, { s with gates := gate :: s.gates })

/-- Takes the slot of the registry under a name, if it is free. -/
def tryAcquire (name correlationId : String) : Work Stage Bool :=
  Work.act fun s =>
    match s.dispatcher.registry.tryAcquire correlationId with
    | (none, _) => (false, s)
    | (some id, registry) =>
      let s := { s with guards := (name, id) :: s.guards.filter fun g => g.1 ≠ name }
      (true, changeDispatcher (fun d => { d with registry }) s)

/-- Gives back what was taken under a name, and tells whether there was something. -/
def release (name : String) : Work Stage Bool :=
  Work.act fun s =>
    match s.guards.lookup name with
    | none => (false, s)
    | some id =>
      let s := { s with guards := s.guards.filter fun g => g.1 ≠ name }
      (true, changeDispatcher (fun d => { d with registry := d.registry.release id }) s)

/-- The session taken under a name. -/
def heldSession? (s : Stage) (name : String) : Option Session :=
  (s.guards.lookup name).bind s.dispatcher.registry.session?

/-! ### The end -/

/-- The gates that the cast waits for. -/
def Cast.gates (cast : Cast) : List String :=
  cast.filterMap fun (_, role) =>
    match role with
    | .scripted role => role.gate
    | _ => none

/-- Cancels the session in the slot and runs what is posted, then rounds; `n` times. -/
def wrapUp : Nat → Play → Play
  | 0, p => p
  | n + 1, p =>
    let s := (resolveCurrent .cancelled p.stage).2
    let s := runFirstPosted s.dispatcher.posted.length s
    wrapUp n (Play.settle { p with stage := s })

/-- The end of a play: all gates are opened, and whoever still waits is let go. -/
def Play.close (p : Play) : Play :=
  let p := Play.settle { p with stage := { p.stage with gates := p.cast.gates ++ p.stage.gates } }
  let d := p.stage.dispatcher
  wrapUp (if d.isQuiet then 0 else d.stats.submitted + 1) p

end SignOn.Rehearsal
