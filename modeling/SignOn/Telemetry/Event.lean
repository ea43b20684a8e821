import SignOn.Broker.Kind

/-! # What is told about the work

Each command tells when it starts and how it ends, each attempt over a transport tells how it went,
and both are counted under labels that stay the same. -/

namespace SignOn

/-- The two lanes: one command at a time with the person, or many without. -/
inductive LaneKind where
  | interactive
  | silent
  deriving DecidableEq, Repr, Inhabited

/-- The label of a lane. -/
def LaneKind.label : LaneKind → String
  | .interactive => "interactive"
  | .silent => "silent"

/-- The name of a lane in messages that show it as data. -/
def LaneKind.shown : LaneKind → String
  | .interactive => "Interactive"
  | .silent => "Silent"

/-- What is counted about a command. -/
inductive CommandOutcome where
  | attempt
  | success
  | cancel
  | failure
  deriving DecidableEq, Repr, Inhabited

/-- The label of what is counted. -/
def CommandOutcome.label : CommandOutcome → String
  | .attempt => "attempt"
  | .success => "success"
  | .cancel => "cancel"
  | .failure => "failure"

/-- How an attempt over a transport went. -/
inductive TransportOutcome where
  | success
  | unreachable
  | fatal
  deriving DecidableEq, Repr, Inhabited

/-- The label of an outcome. -/
def TransportOutcome.label : TransportOutcome → String
  | .success => "success"
  | .unreachable => "communication_failure"
  | .fatal => "fatal"

/-- One attempt over a transport. -/
structure TransportReport where
  method : String
  transport : TransportKind
  outcome : TransportOutcome
  deriving DecidableEq, Repr, Inhabited

/-- An event of a command. -/
inductive CommandEvent where
  | started (apiId correlationId : String) (lane : LaneKind)
  | ended (apiId correlationId status : String)
  | cacheHit (apiId correlationId : String)
  | cancelBroadcast (correlationId : String)
  deriving DecidableEq, Repr, Inhabited

/-- What is counted. -/
inductive Counter where
  | command (lane : LaneKind) (outcome : CommandOutcome)
  | transport (kind : TransportKind) (outcome : TransportOutcome)
  deriving DecidableEq, Repr, Inhabited

/-- The name of a counter with its labels. -/
def Counter.name : Counter → String
  | .command lane outcome => "identity_dispatch_command_total\x7blane=" ++ lane.label
      ++ ",outcome=" ++ outcome.label ++ "\x7d"
  | .transport kind outcome => "identity_dispatch_ipc_strategy_total\x7bstrategy=" ++ kind.label
      ++ ",outcome=" ++ outcome.label ++ "\x7d"

/-- How often each thing was counted, in the order in which it was first counted. -/
abbrev Counters := List (Counter × Nat)

/-- The counts with one thing counted once more. -/
def Counters.count (c : Counter) : Counters → Counters
  | [] => [(c, 1)]
  | (d, n) :: rest => if d = c then (d, n + 1) :: rest else (d, n) :: Counters.count c rest

end SignOn
