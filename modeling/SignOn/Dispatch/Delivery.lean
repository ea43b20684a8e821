import SignOn.Dispatch.Basic

/-! # Delivering results

A delivery counts the result, notes the end of the command, and has the callback run. A callback
that runs at once leaves a strand behind; one that is posted waits in the row until its turn comes,
and the next delivery follows. When a callback has ended, what was noted about its command is
flushed and the strand goes on. A callback that breaks off takes the rest of its strand with it; the
worker it broke is free again all the same. -/

namespace SignOn

namespace Dispatcher

variable {κ : Type}

/-- Counts a result and notes the end of its command. -/
def announce (d : Dispatcher κ) (x : Delivery κ) : Dispatcher κ :=
  let c := x.submission.command
  let d := { d with stats := d.stats.ended x.status }
  let d := d.count x.submission.lane x.status.outcome
  d.note x.submission.ticket (.ended c.apiId c.correlationId x.status.label)

/-- Starts a callback; the strand says what follows it. -/
def openCallback (d : Dispatcher κ) (x : Delivery κ) (rest : List (Delivery κ)) (ending : Ending) :
    Dispatcher κ :=
  { d with
    journal := d.journal
      ++ [.called x.submission.ticket x.submission.command.correlationId x.status]
    strands := ⟨d.strandCount, x, rest, ending⟩ :: d.strands
    strandCount := d.strandCount + 1 }

/-- Delivers results until a callback is to run at once: that one and the rest are given back. -/
def announceAll (d : Dispatcher κ) :
    List (Delivery κ) → Dispatcher κ × Option (Delivery κ × List (Delivery κ))
  | [] => (d, none)
  | x :: rest =>
    let d := d.announce x
    if d.poster.runsAtOnce x.submission.ticket then (d, some (x, rest))
    else announceAll { d with posted := d.posted ++ [x] } rest

/-- A worker is done with a job. -/
def freeWorker (d : Dispatcher κ) (kind : LaneKind) (pool ticket : Nat) : Dispatcher κ :=
  d.withLane kind ((d.lane kind).finish pool fun j => j.submission.ticket = ticket)

/-- Does what is left once some results have been delivered. A rejected execution is no longer under
way, and those who attached to it are told. -/
def conclude (d : Dispatcher κ) : Ending → Dispatcher κ
  | .nothing => d
  | .freeWorker lane pool ticket => d.freeWorker lane pool ticket
  | .settle key future result =>
    let (listeners, d) := (d.leaveFlight key).resolve future result
    match d.announceAll (listeners.map fun s => ⟨s, result⟩) with
    | (d, some (x, rest)) => d.openCallback x rest .nothing
    | (d, none) => d

/-- Delivers results one after another and then does what is left. -/
def deliver (d : Dispatcher κ) (xs : List (Delivery κ)) (ending : Ending) : Dispatcher κ :=
  match d.announceAll xs with
  | (d, some (x, rest)) => d.openCallback x rest ending
  | (d, none) => d.conclude ending

/-- Flushes what was noted about a command that was told its result. -/
def flush (d : Dispatcher κ) (x : Delivery κ) : Dispatcher κ :=
  { d with journal := d.journal
      ++ [.flushed x.submission.ticket x.submission.command.correlationId x.status.failure?] }

/-- What is left of a strand whose callback broke off. -/
def breakOff (d : Dispatcher κ) : Ending → Dispatcher κ
  | .freeWorker lane pool ticket => d.freeWorker lane pool ticket
  | .nothing | .settle _ _ _ => d

/-- The callback of a strand has ended. -/
def endCallback (d : Dispatcher κ) (strand : Nat) (brokeOff : Bool) : Dispatcher κ :=
  match d.strands.find? fun s => s.id = strand with
  | none => d
  | some s =>
    let d := { d with strands := d.strands.filter fun t => t.id ≠ strand }
    if brokeOff then d.breakOff s.ending else (d.flush s.current).deliver s.rest s.ending

/-- The posted callback with a place in the row runs. -/
def runPosted (d : Dispatcher κ) (place : Nat) : Dispatcher κ :=
  match d.posted[place]? with
  | none => d
  | some x => { d with posted := d.posted.eraseIdx place }.openCallback x [] .nothing

end Dispatcher

end SignOn
