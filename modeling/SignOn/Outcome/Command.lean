import SignOn.Failure.Normalize

/-! # Results of commands

A command ends with a value, with the person giving up, or with a failure. The result names the
command whose execution it is; where it is handed to another command that asked for the same, it is
attributed to that one. -/

namespace SignOn

/-- The value of a command. -/
inductive CommandOutput where
  | token (issued : IssuedToken)
  | accounts (accounts : List Account)
  | removed (removed : Bool)
  | sharedDevice (shared : Bool)
  deriving DecidableEq

/-- How a command ended. -/
inductive CommandStatus where
  | completed (output : CommandOutput)
  | cancelled
  | failed (failure : Failure)
  deriving DecidableEq

namespace CommandStatus

/-- The label in records. -/
def label : CommandStatus → String
  | .completed _ => "completed"
  | .cancelled => "cancel"
  | .failed _ => "error"

/-- The failure, if there was one. -/
def failure? : CommandStatus → Option Failure
  | .failed f => some f
  | _ => none

/-- The status with a token attributed to the given command. -/
def attributedTo (status : CommandStatus) (correlationId : String) : CommandStatus :=
  match status with
  | .completed (.token issued) =>
    .completed (.token { issued with correlationId := some correlationId })
  | other => other

/-- May the status be handed out again later? -/
def isCacheable : CommandStatus → Bool
  | .completed _ => true
  | .cancelled => false
  | .failed f => f.isCacheable

end CommandStatus

/-- How a command ended, and whose execution it was. -/
structure CommandResult where
  status : CommandStatus
  correlationId : String
  deriving DecidableEq

namespace CommandResult

/-- The result attributed to another command that asked for the same. -/
def attributedTo (r : CommandResult) (correlationId : String) : CommandResult :=
  ⟨r.status.attributedTo correlationId, correlationId⟩

/-- The value, or the failure; giving up is a failure here. -/
def toExcept (r : CommandResult) : Except Failure CommandOutput :=
  match r.status with
  | .completed output => .ok output
  | .cancelled => .error (.cancelled "The command was cancelled")
  | .failed f => .error f

end CommandResult

/-- What the controllers of a command give: the report of an acquisition, or a value of its own. -/
inductive CommandValue where
  | acquisition (a : Acquisition)
  | output (output : CommandOutput)
  deriving DecidableEq

/-- How a command ends whose controllers gave `value`: an acquisition that succeeded and every other
value complete it, and of the failures the one of a person giving up cancels it. -/
def classify (value : Except Failure CommandValue) (correlationId : String) : CommandStatus :=
  let ofFailure (f : Failure) : CommandStatus := if f.isCancelled then .cancelled else .failed f
  match value with
  | .ok (.output output) => .completed output
  | .ok (.acquisition a) =>
    match a.issued? with
    | some issued => .completed (.token { issued with correlationId := some correlationId })
    | none => ofFailure (.ofAcquisition a)
  | .error f => ofFailure f

end SignOn
