import SignOn.Rehearsal.Scene
import SignOn.Rehearsal.Summary
import SignOn.Rehearsal.Written

/-! # Playing a script against a dispatcher

A step hands something in, waits for something, or looks at something. What happened is told once: a
record holds the entries and the reports since the record before it. Results may be kept under a
name and asked for later. -/

namespace SignOn.Rehearsal

open Json
open Failure (Payload)

/-! ### Steps -/

/-- A command, and those that are begun when it fails, each when the one before it fails. -/
structure Planned where
  command : Command String
  retries : List (Command String)

/-- A step of a script. -/
inductive Step where
  | unbuilt (problem : CommandProblem)
  | submitSilent (c : Planned) (keepAs : Option String) (isAsked : Bool)
  | submitAndWait (c : Planned)
  | submitAndForget (c : Planned)
  | beginInteractive (c : Planned)
  | completeInteractive (k : Continuation)
  | cancelActive
  | openGate (gate : String)
  | awaitFlushes (count : Nat)
  | awaitPosted (count : Nat)
  | awaitActive (correlationId : String)
  | runPosted
  | stopSilent
  | resetSilent
  | shutdown
  | clearResults
  | tryAcquire (name correlationId : String)
  | inspect (name : String)
  | release (name : String)
  | askState
  | askFuture (name : String)
  | askSettings

mutual

/-- The values under a name, each inside the one before it. -/
def chain (name : String) : Value → List Value
  | .object members => chainIn name members
  | _ => []

/-- The values under a name among some members, each inside the one before it. -/
def chainIn (name : String) : List (String × Value) → List Value
  | [] => []
  | (key, v) :: rest => if key = name then v :: chain name v else chainIn name rest

end

/-- Reads a command that must be one. -/
def decodeBuilt : Decoder (Command String) := fun v => do
  match ← decodeCommand "" v with
  | .ok c => .ok c
  | .error problem => .error (.here (.refused problem.message))

/-- Reads the commands that are begun when the command of a step fails. -/
def decodeRetries : Decoder (List (Command String)) := fun v => do
  let told := chain "retry_on_error" (v.memberD "command") ++ chain "retry_on_error" v
  (told.filter (· ≠ .null)).mapM decodeBuilt

/-- Reads a step that hands a command in. -/
def decodePlanned (step : Planned → Step) : Decoder Step := fun v => do
  match ← v.read "command" (decodeCommand "") with
  | .ok c => return step ⟨c, ← decodeRetries v⟩
  | .error problem => return .unbuilt problem

/-- Reads a step. -/
def Step.decode : Decoder Step := fun v => do
  match ← v.get String "do" with
  | "submit_silent" => do
    let keepAs ← v.get? String "future"
    let isAsked ← v.flag "peek"
    decodePlanned (fun c => .submitSilent c keepAs isAsked) v
  | "submit_silent_sync" => decodePlanned .submitAndWait v
  | "submit_and_forget" => decodePlanned .submitAndForget v
  | "begin_interactive" => decodePlanned .beginInteractive v
  | "complete_interactive" => .completeInteractive <$> Continuation.decode v
  | "cancel_active" => return .cancelActive
  | "open_gate" => .openGate <$> v.get String "gate"
  | "await" => .awaitFlushes <$> v.nat "flushes"
  | "await_posted" => .awaitPosted <$> v.nat "count"
  | "await_active" => .awaitActive <$> v.get String "correlation_id"
  | "run_posted" => return .runPosted
  | "stop_silent_lane" => return .stopSilent
  | "reset_silent_lane" => return .resetSilent
  | "shutdown" => return .shutdown
  | "clear_result_cache" => return .clearResults
  | "session_try_acquire" =>
    return .tryAcquire (← v.get String "id") (← v.get String "correlation_id")
  | "session_inspect" => .inspect <$> v.get String "id"
  | "session_release" => .release <$> v.get String "id"
  | "state" => return .askState
  | "future" => .askFuture <$> v.get String "name"
  | "config" => return .askSettings
  | step => .error (.here (.refused ("there is no step " ++ step)))

/-! ### Performances -/

/-- A play, the futures that are kept by name, and how many entries and reports have been told. -/
structure Performance where
  play : Play
  futures : List (String × Nat)
  toldEntries : Nat
  toldReports : Nat

namespace Performance

/-- A performance that is about to begin. -/
def new (cast : Cast) (d : Dispatcher String) : Performance :=
  ⟨⟨cast, cast.prepare (.ofDispatcher d), []⟩, [], 0, 0⟩

/-- The dispatcher. -/
def dispatcher (p : Performance) : Dispatcher String := p.play.stage.dispatcher

/-- The record of what has not been told yet; it counts as told from then on. -/
def tell (p : Performance) : Value × Performance :=
  let entries := p.dispatcher.journal.drop p.toldEntries
  let reports := p.play.stage.reports.drop p.toldReports
  let flushed := (entries.filter Entry.isFlush).map Entry.correlationId
  (.ofMembers [("commands", Entry.recordByCommand entries),
    ("strategy_events", .ofList TransportReport.record reports),
    ("flush_order", .ofList .string flushed)],
    { p with
      toldEntries := p.dispatcher.journal.length
      toldReports := p.play.stage.reports.length })

/-- The record of what has not been told yet and of the state. -/
def tellAll (p : Performance) (more : List (String × Value)) : Value × Performance :=
  let (events, p) := p.tell
  (.ofMembers (("events", events) :: ("state", p.dispatcher.record) :: more), p)

/-- The record of a future that was kept under a name. -/
def recordFuture (p : Performance) (name : String) : Value :=
  match p.futures.lookup name with
  | none => .null
  | some n =>
    let future := p.dispatcher.future n
    .ofMembers [("done", .bool future.isDone),
      ("value", .ofOption CommandResult.record future.value)]

/-- Keeps a future under a name, if there is one, and records whether it is done, if that is
asked. -/
def keep (p : Performance) (keepAs : Option String) (isAsked : Bool) (future : Nat) :
    Value × Performance :=
  let isDone := (p.dispatcher.future future).isDone
  (.object [("done", if isAsked then .bool isDone else .null)],
    { p with futures := (keepAs.map fun name => (name, future)).toList ++ p.futures })

/-- How the work of a step ended, and the performance with its record; none if it waits for ever. -/
abbrev Played := Option (Except Payload Value × Performance)

/-- Plays work, and records its end with what `record` makes of it. -/
def perform {α : Type} (p : Performance) (w : Work Stage α)
    (record : α → Performance → Value × Performance) : Played :=
  match p.play.perform w with
  | (none, _) => none
  | (some (.error payload), play) => some (.error payload, { p with play })
  | (some (.ok a), play) =>
    let (v, p) := record a { p with play }
    some (.ok v, p)

/-- Plays work that ends with nothing to tell. -/
def quietly (p : Performance) (w : Work Stage Unit) : Played := p.perform w fun _ p => (.null, p)

/-- Plays work that ends with yes or no. -/
def answering (p : Performance) (w : Work Stage Bool) : Played :=
  p.perform w fun b p => (.bool b, p)

/-- Plays a step up to its end. -/
def enact (p : Performance) : Step → Played
  | .unbuilt problem => some (.ok problem.record, p)
  | .submitSilent c keepAs isAsked =>
    p.perform (Rehearsal.submitSilent c.command c.retries) fun n p => p.keep keepAs isAsked n
  | .submitAndWait c =>
    p.perform (Rehearsal.submitAndWait c.command c.retries).run fun r p =>
      (Failure.recordOr CommandOutput.record r, p)
  | .submitAndForget c => p.quietly (Rehearsal.submitAndForget c.command c.retries)
  | .beginInteractive c => p.quietly (Rehearsal.beginInteractive c.command c.retries)
  | .completeInteractive k => p.answering (askDispatcher fun d => d.completeInteractive k)
  | .cancelActive => p.answering (askDispatcher Dispatcher.cancelActive)
  | .openGate gate => p.answering (Rehearsal.openGate gate)
  | .awaitFlushes n => p.perform (Rehearsal.awaitFlushes n) fun _ p => p.tellAll []
  | .awaitPosted n => p.perform (Rehearsal.awaitPosted n) fun _ p =>
    p.tellAll [("posted", .count p.dispatcher.posted.length)]
  | .awaitActive id => p.quietly (Rehearsal.awaitActive id)
  | .runPosted => p.perform Rehearsal.runPosted fun n p => p.tellAll [("ran", .count n)]
  | .stopSilent => p.quietly Rehearsal.stopSilent
  | .resetSilent => p.quietly Rehearsal.resetSilent
  | .shutdown => p.quietly Rehearsal.shutdown
  | .clearResults => p.quietly (change Dispatcher.clearResults)
  | .tryAcquire name id => p.answering (Rehearsal.tryAcquire name id)
  | .inspect name => some (.ok (.ofOption
      (fun s => .object [("resolved", .bool s.isResolved)]) (heldSession? p.play.stage name)), p)
  | .release name => p.answering (Rehearsal.release name)
  | .askState => some (.ok p.dispatcher.record, p)
  | .askFuture name => some (.ok (p.recordFuture name), p)
  | .askSettings => some (.ok (Wire.encode p.dispatcher.settings), p)

/-- Plays a step, and what it set in motion after it. -/
def step (p : Performance) (s : Step) : Played :=
  (p.enact s).map fun (v, p) => (v, { p with play := p.play.settle })

/-- Ends a performance, and records what has not been told, the state, and the summary. -/
def finish (p : Performance) : List (String × Value) × Performance :=
  let (rest, p) := { p with play := p.play.close }.tell
  let s := p.play.stage
  ([("rest", rest), ("state", s.dispatcher.record), ("flushes", .count (flushes s)),
    ("events", .count (events s)), ("summary", p.play.cast.summary s)], p)

end Performance

end SignOn.Rehearsal
