import SignOn.Rehearsal.Alone
import SignOn.Rehearsal.Cast

/-! # Playing the dispatcher

A play goes in rounds. In each round a job is started wherever a worker is free, every job under way
gets as far as it can, and calls that waited for a lane go on; a moment passes. A step of the script
is work like any other and takes turns with the rounds. Where nothing moves any more the clock is
put forward to the next time at which somebody wants to look again. -/

namespace SignOn.Rehearsal

open Failure (Payload)
open Stage

/-- A job under way, and when it wants to look again if nothing happens. -/
structure Underway where
  ticket : Nat
  work : Work Stage (Except Failure CommandValue)
  alarm : Option Nat

/-- The cast, the stage, and the jobs under way. -/
structure Play where
  cast : Cast
  stage : Stage
  underway : List Underway

/-! ### Callbacks -/

/-- The commands that a callback hands in when it is told of a failure. -/
def retryOf (s : Stage) (strand : Strand String) : Option (List (Command String)) :=
  match strand.current.status with
  | .failed _ => s.retries.lookup strand.current.submission.ticket
  | _ => none

/-- The stage with the dispatcher changed. -/
def changeDispatcher (f : Dispatcher String → Dispatcher String) (s : Stage) : Stage :=
  theDispatcher.modify f s

/-- The first command begun interactively; the others are for the callback of its failure. -/
def beginRetry (chain : List (Command String)) (s : Stage) : Stage :=
  match chain with
  | [] => s
  | c :: rest =>
    let s := { s with retries := s.retries ++ [(s.dispatcher.stats.submitted, rest)] }
    changeDispatcher (fun d => d.beginInteractive c) s

/-- Runs the callbacks that have been started, the newest first, at most `n` steps of them. -/
def answerCallbacks : Nat → Stage → Stage
  | 0, s => s
  | n + 1, s =>
    match s.dispatcher.strands with
    | [] => s
    | strand :: _ =>
      match retryOf s strand with
      | some chain =>
        let ticket := strand.current.submission.ticket
        answerCallbacks n
          (beginRetry chain { s with retries := s.retries.filter fun r => r.1 ≠ ticket })
      | none => answerCallbacks n (changeDispatcher (fun d => d.endCallback strand.id false) s)

/-- How many commands the retries of a stage still hold, with those that began them. -/
def retryCount (s : Stage) : Nat := s.retries.foldl (fun n r => n + r.2.length + 1) 0

/-- A bound on the steps that the callbacks of a stage can take: each command is told once, and each
retry is begun once. -/
def callbackBound (s : Stage) : Nat :=
  s.dispatcher.stats.submitted + 2 * retryCount s + 1

/-- Runs all callbacks that have been started. -/
def settleCallbacks (s : Stage) : Stage := answerCallbacks (callbackBound s) s

/-! ### Rounds -/

namespace Play

/-- What a job does. -/
def workOf (cast : Cast) (e : Execution String) (timeout : Option Duration) :
    Work Stage (Except Failure CommandValue) :=
  let c := e.job.submission.command.withControllers cast.controller
  let session := e.session.map fun id => dispatcherSession c.correlationId id timeout
  (c.execute session).run

/-- A job of a pool is started if one waits and a worker is free. -/
def startIn (p : Play) (kind : LaneKind) (pool : Nat) : Option Play :=
  (p.stage.dispatcher.startJob? kind pool).map fun (e, d) =>
    let job : Underway :=
      ⟨e.job.submission.ticket, workOf p.cast e d.registry.timeout, none⟩
    { p with stage := theDispatcher.set d p.stage, underway := p.underway ++ [job] }

/-- Starts a job of each pool, and tells whether there was one. -/
def startJobs (p : Play) (moved : Bool) : List (LaneKind × Nat) → Bool × Play
  | [] => (moved, p)
  | (kind, pool) :: rest =>
    match p.startIn kind pool with
    | some p => startJobs p true rest
    | none => startJobs p moved rest

/-- Every pool there is. -/
def pools (p : Play) : List (LaneKind × Nat) :=
  let d := p.stage.dispatcher
  d.interactive.poolNumbers.map (LaneKind.interactive, ·)
    ++ d.silent.poolNumbers.map (LaneKind.silent, ·)

/-- The controllers of a job are done, and the callbacks of its result run. -/
def finish (s : Stage) (ticket : Nat) (outcome : Outcome) : Stage :=
  settleCallbacks (changeDispatcher (fun d => d.finishJob ticket outcome s.clock.now) s)

/-- Has every job get as far as it can; those that are done leave. -/
def advanceJobs (s : Stage) (moved : Bool) : List Underway → Bool × Stage × List Underway
  | [] => (moved, s, [])
  | job :: rest =>
    match job.work.advance s with
    | (.ended outcome, s) => advanceJobs (finish s job.ticket outcome) true rest
    | (.waiting alarm work, s) =>
      let (moved, s, rest) := advanceJobs s moved rest
      (moved, s, { job with work, alarm } :: rest)

/-- The first call that may go on does so. -/
def goOn (s : Stage) (moved : Bool) : Bool × Stage :=
  match s.dispatcher.continued.findIdx? s.dispatcher.mayGoOn with
  | some place => (true, changeDispatcher (fun d => d.goOn place) s)
  | none => (moved, s)

/-- The length of a round. -/
def roundNanos : Nat := 1000

/-- One round, and whether anything moved in it. -/
def round (p : Play) : Bool × Play :=
  let (moved, p) := p.startJobs false p.pools
  let s := theClock.modify (fun c => c.advance roundNanos) p.stage
  let (moved, s, underway) := advanceJobs s moved p.underway
  let (moved, s) := goOn s moved
  (moved, { p with stage := s, underway })

/-- A bound on the rounds in which something moves: a command is started once and ends once, and a
call goes on once. -/
def bound (p : Play) : Nat :=
  let d := p.stage.dispatcher
  4 * (d.stats.submitted + d.continued.length + retryCount p.stage) + 16

/-- Rounds until nothing moves, at most `n`. -/
def rounds : Nat → Play → Play
  | 0, p => p
  | n + 1, p =>
    match p.round with
    | (true, p) => rounds n p
    | (false, p) => p

/-- Rounds until nothing moves. -/
def settle (p : Play) : Play := rounds p.bound p

/-- The next time somebody wants to look again. -/
def nextAlarm (p : Play) (own : Option Nat) : Option Nat :=
  let later := (own.toList ++ p.underway.filterMap (·.alarm)).filter (p.stage.clock.uptime < ·)
  later.min?

/-- Takes turns between a step of the script and rounds, at most `n` times. The step has no result
if it waits for ever. -/
def turns {α : Type} : Nat → Work Stage α → Play → Option (Except Payload α) × Play
  | 0, _, p => (none, p)
  | n + 1, w, p =>
    match w.advance p.stage with
    | (.ended result, s) => (some result, { p with stage := settleCallbacks s })
    | (.waiting alarm rest, s) =>
      if s.dispatcher.strands.isEmpty then
        match round { p with stage := s } with
        | (true, p) => turns n rest p
        | (false, p) =>
          match p.nextAlarm alarm with
          | none => (none, p)
          | some uptime =>
            turns n rest { p with stage := theClock.modify (fun c => c.forwardTo uptime) p.stage }
      else turns n rest { p with stage := settleCallbacks s }

/-- Plays a step of the script; what it set in motion is left to the rounds after it. -/
def perform {α : Type} (p : Play) (w : Work Stage α) : Option (Except Payload α) × Play :=
  turns (2 * p.bound + 16) w p

end Play

end SignOn.Rehearsal
