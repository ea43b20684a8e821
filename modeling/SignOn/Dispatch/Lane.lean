import SignOn.Telemetry.Event

/-! # Lanes

A lane hands jobs to a fixed number of workers, first come, first served. Its workers form a pool; a
pool that was stopped takes no more jobs and works off those it has. A lane may be started anew with
a fresh pool, so pools are numbered in the order in which they were formed. -/

namespace SignOn

/-- Jobs that wait and jobs that are worked on, each in the order in which it got there. -/
structure Pool (α : Type) where
  number : Nat
  queue : List α
  running : List α
  deriving DecidableEq

/-- A lane: its pools, the newest first, and whether the newest takes jobs. -/
structure Lane (α : Type) where
  kind : LaneKind
  workers : Nat
  formed : Nat
  accepting : Bool
  pools : List (Pool α)
  deriving DecidableEq

namespace Lane

variable {α : Type}

/-- A lane that has just been started. -/
def new (kind : LaneKind) (workers : Nat) : Lane α := ⟨kind, workers, 1, true, [⟨0, [], []⟩]⟩

/-- How many workers a pool has: one at least. -/
def poolSize (l : Lane α) : Nat := max l.workers 1

/-- Does the lane take jobs? -/
def isRunning (l : Lane α) : Bool := l.accepting

/-- The pool with a number. -/
def pool? (l : Lane α) (number : Nat) : Option (Pool α) := l.pools.find? fun p => p.number = number

/-- The lane with the pool of a number changed. -/
def changePool (l : Lane α) (number : Nat) (change : Pool α → Pool α) : Lane α :=
  { l with pools := l.pools.map fun p => if p.number = number then change p else p }

/-- The lane with the job waiting at the end of the queue; none if it takes no jobs. -/
def submit? (l : Lane α) (job : α) : Option (Lane α) :=
  match l.accepting, l.pools with
  | true, p :: ps => some { l with pools := { p with queue := p.queue ++ [job] } :: ps }
  | _, _ => none

/-- The pool that takes jobs. -/
def open? (l : Lane α) : Option Nat := if l.accepting then l.pools.head?.map (·.number) else none

/-- The lane with no pool taking jobs. -/
def close (l : Lane α) : Lane α := { l with accepting := false }

/-- The lane with a fresh pool taking jobs. -/
def reopen (l : Lane α) : Lane α :=
  { l with
    accepting := true
    formed := l.formed + 1
    pools := ⟨l.formed, [], []⟩ :: l.pools }

/-- Has the pool worked off all its jobs? -/
def isIdle (l : Lane α) (number : Nat) : Bool :=
  ((l.pool? number).map fun p => p.queue.isEmpty && p.running.isEmpty).getD true

/-- A job taken by a free worker of a pool, and the lane after it; none if nothing waits or no
worker is free. -/
def start? (l : Lane α) (number : Nat) : Option (α × Lane α) :=
  match l.pool? number with
  | some ⟨_, job :: rest, running⟩ =>
    if running.length < l.poolSize then
      some (job, l.changePool number fun p => { p with queue := rest, running := running ++ [job] })
    else none
  | _ => none

/-- The lane after a worker is done with the first job in work that passes a test. -/
def finish (l : Lane α) (number : Nat) (isDone : α → Bool) : Lane α :=
  l.changePool number fun p => { p with running := p.running.eraseP isDone }

/-- The numbers of the pools, the oldest first. -/
def poolNumbers (l : Lane α) : List Nat := (l.pools.map (·.number)).reverse

/-- The lane with the names of its parts, for messages that show it as data. -/
def shown (l : Lane α) : String :=
  "Lane \x7b kind: " ++ l.kind.shown ++ ", workers: " ++ toString l.workers ++ ", running: "
    ++ (if l.isRunning then "true" else "false") ++ " \x7d"

end Lane

end SignOn
