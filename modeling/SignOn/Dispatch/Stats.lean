import SignOn.Outcome.Command
import SignOn.Telemetry.Event

/-! # Counts of the dispatcher

How many commands were handed in, how they ended, and how many of them were spared an execution. -/

namespace SignOn

/-- The counts. -/
structure Stats where
  submitted : Nat := 0
  completed : Nat := 0
  cancelled : Nat := 0
  failed : Nat := 0
  deduplicated : Nat := 0
  cacheHits : Nat := 0
  cancellationsBroadcast : Nat := 0
  deriving DecidableEq, Repr, Inhabited

/-- The counts after a command ended. -/
def Stats.ended (s : Stats) : CommandStatus → Stats
  | .completed _ => { s with completed := s.completed + 1 }
  | .cancelled => { s with cancelled := s.cancelled + 1 }
  | .failed _ => { s with failed := s.failed + 1 }

/-- What is counted about a command that ended. -/
def CommandStatus.outcome : CommandStatus → CommandOutcome
  | .completed _ => .success
  | .cancelled => .cancel
  | .failed _ => .failure

end SignOn
