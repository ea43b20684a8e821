import SignOn.Command.Basic
import SignOn.Dispatch.Future
import SignOn.Dispatch.Lane
import SignOn.Dispatch.ResultCache
import SignOn.Dispatch.Settings
import SignOn.Dispatch.Stats
import SignOn.Session.Registry

/-! # The dispatcher

Commands are handed to two lanes. The interactive lane runs one command at a time, and while it runs
the command holds the slot of the session registry. The silent lane runs several at once; of those,
commands that ask for the same share one execution while it is under way and its result for a while
after. Every command is told its result once, by a callback, and then what was noted about it is
flushed.

A callback belongs to the application: it takes its time, it may hand in more commands, and it may
break off. The dispatcher is therefore left in the middle of its work whenever a callback runs; a
strand says which callback that is and what follows it. -/

namespace SignOn

/-- A command as it was handed in; each has a ticket of its own. -/
structure Submission (κ : Type) where
  ticket : Nat
  command : Command κ
  lane : LaneKind

/-- A command that waits for a worker or is worked on. One that others may share has a key, and one
whose result somebody may ask for has a future. -/
structure Job (κ : Type) where
  submission : Submission κ
  key : Option CommandKey
  future : Option Nat

/-- A result on its way to the command it is for. -/
structure Delivery (κ : Type) where
  submission : Submission κ
  result : CommandResult

/-- The status that the command is told: the result attributed to it. -/
def Delivery.status {κ : Type} (x : Delivery κ) : CommandStatus :=
  x.result.status.attributedTo x.submission.command.correlationId

/-- A job whose controllers are at work, and where: the lane, the pool and, for an interactive one,
the session. -/
structure Execution (κ : Type) where
  job : Job κ
  lane : LaneKind
  pool : Nat
  session : Option Nat

/-- What is left to do once some results have been delivered. -/
inductive Ending where
  | nothing
  | freeWorker (lane : LaneKind) (pool ticket : Nat)
  | settle (key : Option CommandKey) (future : Option Nat) (result : CommandResult)

/-- A callback that is running, and what follows it. -/
structure Strand (κ : Type) where
  id : Nat
  current : Delivery κ
  rest : List (Delivery κ)
  ending : Ending

/-- A call that goes on once a pool has worked off its jobs. -/
inductive Continued where
  | closeSilent (after : Option Nat)
  | reopenSilent (after : Option Nat)
  deriving DecidableEq, Repr

/-- Where callbacks run: the one of a ticket with whoever brings the result, or later from a row. -/
structure Poster where
  runsAtOnce : (ticket : Nat) → Bool

namespace Poster

/-- Every callback runs with whoever brings the result. -/
def inline : Poster := ⟨fun _ => true⟩

/-- Every callback waits in the row. -/
def queue : Poster := ⟨fun _ => false⟩

end Poster

/-- What can be seen of a command from outside. -/
inductive Entry where
  | noted (ticket : Nat) (event : CommandEvent)
  | called (ticket : Nat) (correlationId : String) (status : CommandStatus)
  | flushed (ticket : Nat) (correlationId : String) (failure : Option Failure)
  deriving DecidableEq

/-- The dispatcher. -/
structure Dispatcher (κ : Type) where
  settings : Settings
  poster : Poster
  silent : Lane (Job κ)
  interactive : Lane (Job κ)
  registry : Registry
  inFlight : List (CommandKey × Nat)
  results : ResultCache CommandKey CommandResult
  futures : List (Future CommandResult (Submission κ))
  executions : List (Execution κ)
  strands : List (Strand κ)
  strandCount : Nat
  posted : List (Delivery κ)
  continued : List Continued
  stats : Stats
  counters : Counters
  journal : List Entry

namespace Dispatcher

variable {κ : Type}

/-- A dispatcher that has done nothing yet, with the given registry or one of its own. -/
def ofSettings (settings : Settings) (poster : Poster) (registry : Option Registry) :
    Dispatcher κ where
  settings
  poster
  silent := .new .silent settings.silentWorkers.toNat
  interactive := .new .interactive 1
  registry := registry.getD (.new settings.interactiveTimeout)
  inFlight := []
  results := .new settings.resultCacheCapacity.toNat settings.resultCacheTtl
  futures := []
  executions := []
  strands := []
  strandCount := 0
  posted := []
  continued := []
  stats := {}
  counters := []
  journal := []

instance : Inhabited (Dispatcher κ) := ⟨ofSettings .standard .inline none⟩

/-- A dispatcher with settings that it can run with. -/
def new (settings : Settings) (poster : Poster) (registry : Option Registry) :
    Except SettingsProblem (Dispatcher κ) :=
  match settings.problem? with
  | some problem => .error problem
  | none => .ok (ofSettings settings poster registry)

/-! ### Parts -/

/-- The lane of a kind. -/
def lane (d : Dispatcher κ) : LaneKind → Lane (Job κ)
  | .silent => d.silent
  | .interactive => d.interactive

/-- The dispatcher with the lane of a kind replaced. -/
def withLane (d : Dispatcher κ) (kind : LaneKind) (l : Lane (Job κ)) : Dispatcher κ :=
  match kind with
  | .silent => { d with silent := l }
  | .interactive => { d with interactive := l }

/-- A future by its number. -/
def future (d : Dispatcher κ) (n : Nat) : Future CommandResult (Submission κ) :=
  (d.futures[n]?).getD .pending

/-- A new future, and its number. -/
def addFuture (d : Dispatcher κ) (f : Future CommandResult (Submission κ)) : Nat × Dispatcher κ :=
  (d.futures.length, { d with futures := d.futures ++ [f] })

/-- Those who waited for a future, and the dispatcher with the future set. -/
def resolve (d : Dispatcher κ) (n : Option Nat) (result : CommandResult) :
    List (Submission κ) × Dispatcher κ :=
  match n with
  | none => ([], d)
  | some n =>
    let (_, listeners, f) := (d.future n).set result
    (listeners, { d with futures := d.futures.set n f })

/-- The dispatcher without an execution under way for a key. -/
def leaveFlight (d : Dispatcher κ) (key : Option CommandKey) : Dispatcher κ :=
  match key with
  | none => d
  | some key => { d with inFlight := d.inFlight.filter fun e => e.1 ≠ key }

/-- Notes an event of a submission. -/
def note (d : Dispatcher κ) (ticket : Nat) (event : CommandEvent) : Dispatcher κ :=
  { d with journal := d.journal ++ [.noted ticket event] }

/-- Counts something about a command. -/
def count (d : Dispatcher κ) (lane : LaneKind) (outcome : CommandOutcome) : Dispatcher κ :=
  { d with counters := d.counters.count (.command lane outcome) }

/-! ### Asking -/

/-- How many executions are under way that others may share. -/
def outstanding (d : Dispatcher κ) : Nat := d.inFlight.length

/-- Is there nothing to do and nothing under way? -/
def isQuiet (d : Dispatcher κ) : Bool :=
  d.executions.isEmpty && d.strands.isEmpty && d.posted.isEmpty
    && (d.silent.pools ++ d.interactive.pools).all fun p => p.queue.isEmpty && p.running.isEmpty

end Dispatcher

end SignOn
