import SignOn.Command.Controller
import SignOn.Command.Fallback
import SignOn.Outcome.Command

/-! # Commands

A command is one operation with its parameters and the controllers to try, the most trusted first.
It has a correlation id, which is also in its parameters, and an id under which it is reported. Two
commands ask for the same if they share the key: the operation and the parameters without the text
that tells records apart. -/

namespace SignOn

open Json

/-- The operations. -/
inductive Operation where
  | acquireInteractive
  | acquireSilent
  | getAccounts
  | removeAccount
  | getDeviceMode
  | getCurrentAccount
  | removeCurrentAccount
  deriving DecidableEq, Repr, Inhabited

namespace Operation

/-- The written names, which are also the labels. -/
def names : List (String × Operation) :=
  [("acquire_token_interactive", .acquireInteractive), ("acquire_token_silent", .acquireSilent),
    ("get_accounts", .getAccounts), ("remove_account", .removeAccount),
    ("get_device_mode", .getDeviceMode), ("get_current_account", .getCurrentAccount),
    ("remove_current_account", .removeCurrentAccount)]

/-- The label of an operation. -/
def label (o : Operation) : String := nameIn names o

/-- The name of an operation in messages that show it as data. -/
def shown : Operation → String
  | .acquireInteractive => "AcquireTokenInteractive"
  | .acquireSilent => "AcquireTokenSilent"
  | .getAccounts => "GetAccounts"
  | .removeAccount => "RemoveAccount"
  | .getDeviceMode => "GetDeviceMode"
  | .getCurrentAccount => "GetCurrentAccount"
  | .removeCurrentAccount => "RemoveCurrentAccount"

instance : Wire Operation := ⟨fun o => .string o.label, Decoder.named names⟩

/-- Does the operation need the person? -/
def isInteractive (o : Operation) : Bool := o = .acquireInteractive

/-- May two commands share the operation, and may its result be handed out again? Only what changes
nothing may. -/
def isShareable : Operation → Bool
  | .acquireSilent | .getAccounts | .getCurrentAccount | .getDeviceMode => true
  | .acquireInteractive | .removeAccount | .removeCurrentAccount => false

end Operation

/-- A command must have a controller to try. -/
inductive CommandProblem where
  | noControllers
  deriving DecidableEq, Repr

/-- The message of a problem. -/
def CommandProblem.message : CommandProblem → String
  | .noControllers => "A command requires at least one controller."

/-- What two commands that ask for the same have in common. -/
structure CommandKey where
  operation : Operation
  parameters : Parameters
  deriving DecidableEq

/-- An operation with its parameters and the controllers to try. -/
structure Command (κ : Type) where
  operation : Operation
  parameters : Parameters
  controllers : List κ
  apiId : String
  correlationId : String
  hasController : controllers ≠ []
  isCorrelated : parameters.correlationId = some correlationId

namespace Command

variable {κ σ : Type}

/-- The command of some parameters; `fresh` is the correlation id if the parameters have none. -/
def new (operation : Operation) (parameters : Parameters) (controllers : List κ) (fresh : String) :
    Except CommandProblem (Command κ) :=
  if h : controllers = [] then .error .noControllers
  else
    let correlationId := parameters.correlationId.getD fresh
    .ok ⟨operation, { parameters with correlationId := some correlationId }, controllers,
      operation.label, correlationId, h, rfl⟩

/-- The command under another id in reports. -/
def reportedAs (c : Command κ) (apiId : String) : Command κ := { c with apiId }

/-- What the command shares with every command that asks for the same. -/
def key (c : Command κ) : CommandKey := ⟨c.operation, c.parameters.identity⟩

/-- Do the two commands ask for the same? -/
def alike (a b : Command κ) : Bool :=
  a.operation = b.operation && a.parameters.alike b.parameters

/-- May the command share an execution or a result? -/
def isShareable (c : Command κ) : Bool := c.operation.isShareable

/-- The command with the names of its parts, for messages that show it as data. -/
def shown (c : Command κ) (name : κ → String) : String :=
  "Command \x7b kind: " ++ c.operation.shown ++ ", public_api_id: " ++ Text.quoted c.apiId
    ++ ", correlation_id: " ++ Text.quoted c.correlationId ++ ", controllers: "
    ++ Text.quotedList (c.controllers.map name) ++ " \x7d"

/-! ### Running -/

/-- Every controller wanted the next one to try. -/
def nobodyLeft : Failure := .plain Code.unknownError "Every controller asked to fall through."

/-- There is no session to wait in. -/
def noSession : Failure :=
  .plain Code.missingInteractiveSession "Interactive commands must run on the interactive lane."

/-- Tries controllers in order until one of them has the last word. -/
def tryInOrder {α : Type} [MayRetry α] (run : κ → Flow σ α) : List κ → Flow σ α
  | [] => throw nobodyLeft
  | c :: rest => ExceptT.mk do
    match judge (← (run c).run) rest.isEmpty with
    | .success a => return .ok a
    | .fatal f => return .error f
    | .retry _ => (tryInOrder run rest).run

/-- Runs the command; with the person only in a session. -/
def execute (c : Command (Controller σ)) (session : Option (SessionHandle σ)) :
    Flow σ CommandValue :=
  let p := c.parameters
  match c.operation with
  | .acquireInteractive =>
    match session with
    | none => throw noSession
    | some session =>
      .acquisition <$> tryInOrder (fun k => k.acquireInteractive p session) c.controllers
  | .acquireSilent => .acquisition <$> tryInOrder (fun k => k.acquireSilent p) c.controllers
  | .getAccounts =>
    (fun as => .output (.accounts as)) <$> tryInOrder (fun k => k.accounts p) c.controllers
  | .removeAccount =>
    (fun b => .output (.removed b)) <$> tryInOrder (fun k => k.removeAccount p) c.controllers
  | .getDeviceMode =>
    (fun b => .output (.sharedDevice b)) <$> tryInOrder (fun k => k.deviceMode p) c.controllers
  | .getCurrentAccount =>
    (fun as => .output (.accounts as)) <$> tryInOrder (fun k => k.currentAccount p) c.controllers
  | .removeCurrentAccount =>
    (fun b => .output (.removed b)) <$> tryInOrder (fun k => k.removeCurrentAccount p) c.controllers

/-- The command with its controllers found by name. -/
def withControllers {κ' : Type} (c : Command κ) (find : κ → κ') : Command κ' where
  operation := c.operation
  parameters := c.parameters
  controllers := c.controllers.map find
  apiId := c.apiId
  correlationId := c.correlationId
  hasController := by simpa using c.hasController
  isCorrelated := c.isCorrelated

end Command

end SignOn
