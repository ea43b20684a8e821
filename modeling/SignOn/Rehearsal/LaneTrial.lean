import SignOn.Dispatch.Lane

/-! # Trying out a lane

Jobs that note a value each. A job may break off after that, which changes nothing, and it may stop
its own lane before. -/

namespace SignOn.Rehearsal

/-- A job that notes a value. -/
structure NoteJob (ν : Type) where
  value : ν
  stopsLane : Bool

/-- The lane and the values noted. -/
structure LaneTrial (ν : Type) where
  lane : Lane (NoteJob ν)
  ran : List ν

namespace LaneTrial

variable {ν : Type}

/-- A trial in which nothing has happened. -/
def new (kind : LaneKind) (workers : Nat) : LaneTrial ν := ⟨.new kind workers, []⟩

/-- What a job does. -/
def run (t : LaneTrial ν) (job : NoteJob ν) : LaneTrial ν :=
  { lane := if job.stopsLane then t.lane.close else t.lane, ran := t.ran ++ [job.value] }

/-- The next job of a pool from start to end, if there is one. -/
def work (t : LaneTrial ν) (pool : Nat) : LaneTrial ν :=
  match t.lane.start? pool with
  | none => t
  | some (job, lane) =>
    let t := { t with lane }.run job
    { t with lane := t.lane.finish pool fun _ => true }

/-- How a job was taken. -/
inductive Answer where
  | accepted
  | rejected
  deriving DecidableEq, Repr

/-- The answer in words. -/
def Answer.text : Answer → String
  | .accepted => "accepted"
  | .rejected => "rejected"

/-- Hands a job in; it is worked on at once. A job that the lane does not take is run here, if that
is asked for. -/
def submit (t : LaneTrial ν) (job : NoteJob ν) (runRejected : Bool) : Answer × LaneTrial ν :=
  match t.lane.open?, t.lane.submit? job with
  | some pool, some lane => (.accepted, { t with lane }.work pool)
  | _, _ => (.rejected, if runRejected then t.run job else t)

/-- Stops the lane. -/
def shutdown (t : LaneTrial ν) : LaneTrial ν := { t with lane := t.lane.close }

/-- Starts the lane anew. -/
def restart (t : LaneTrial ν) : LaneTrial ν := { t with lane := t.lane.close.reopen }

/-- The values noted, and the trial with them taken out. -/
def takeRan (t : LaneTrial ν) : List ν × LaneTrial ν := (t.ran, { t with ran := [] })

end LaneTrial

end SignOn.Rehearsal
