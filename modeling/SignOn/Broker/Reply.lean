import SignOn.Broker.Bundle
import SignOn.Outcome.Command

/-! # Replies of a broker

Each call has a reply of one field. A reply with an error code is that error, whatever else it
holds. -/

namespace SignOn

open Json

/-- The names under which a broker reports an error. -/
structure ErrorKeys where
  code : String := "error_code"
  message : String := "error_message"
  subError : String := "sub_error"
  username : String := "username"

/-- The names in use. -/
def errorKeys : ErrorKeys := {}

/-- Fails with the error that the broker reports, if it reports one. -/
def Bundle.checkError (b : Bundle) : Except Failure Unit :=
  match b.string? errorKeys.code with
  | none => .ok ()
  | some code => .error (.ofCode code ((b.string? errorKeys.message).getD "")
      (b.string? errorKeys.subError) (b.string? errorKeys.username))

/-- A token for an account. -/
structure TokenReply where
  issued : IssuedToken
  deriving DecidableEq

instance : Wire TokenReply where
  encode r := .ofMembers [("authentication_result", Wire.encode r.issued)]
  decode := (TokenReply.mk <$> Form.required "authentication_result").decode "TokenReply"

/-- The accounts that the caller may see. -/
structure AccountsReply where
  accounts : List Account
  deriving DecidableEq

instance : Wire AccountsReply where
  encode r := .ofMembers [("accounts", Wire.encode r.accounts)]
  decode := (AccountsReply.mk <$> Form.required "accounts").decode "AccountsReply"

/-- Whether an account was removed. -/
structure RemovedReply where
  removed : Bool
  deriving DecidableEq

instance : Wire RemovedReply where
  encode r := .ofMembers [("removed", Wire.encode r.removed)]
  decode := (RemovedReply.mk <$> Form.required "removed").decode "RemovedReply"

/-- Whether the device is shared. -/
structure DeviceModeReply where
  shared : Bool
  deriving DecidableEq

instance : Wire DeviceModeReply where
  encode r := .ofMembers [("shared_device_mode", Wire.encode r.shared)]
  decode := (DeviceModeReply.mk <$> Form.required "shared_device_mode").decode "DeviceModeReply"

/-- What the broker's own screen is started with. -/
structure LaunchReply where
  payload : Bundle
  deriving DecidableEq

instance : Wire LaunchReply where
  encode r := .ofMembers [("launch_payload", Wire.encode r.payload)]
  decode := (LaunchReply.mk <$> Form.required "launch_payload").decode "LaunchReply"

namespace Bundle

/-- A record of the bundle, failures being those of a command. -/
def extractOrFail (b : Bundle) (α : Type) [Wire α] : Except Failure α :=
  (b.extract α).mapError Failure.client

/-- Reads the token of a reply. -/
def tokenReply (b : Bundle) : Except Failure Acquisition := do
  b.checkError
  let reply ← b.extractOrFail TokenReply
  return .ofIssued reply.issued

/-- Reads the accounts of a reply. -/
def accountsReply (b : Bundle) : Except Failure (List Account) := do
  let reply ← b.extractOrFail AccountsReply
  return reply.accounts

/-- Reads whether an account was removed. -/
def removedReply (b : Bundle) : Except Failure Bool := do
  let reply ← b.extractOrFail RemovedReply
  return reply.removed

/-- Reads whether the device is shared. -/
def deviceModeReply (b : Bundle) : Except Failure Bool := do
  let reply ← b.extractOrFail DeviceModeReply
  return reply.shared

/-- Reads what the broker's own screen is started with. -/
def launchReply (b : Bundle) : Except Failure Bundle := do
  let reply ← b.extractOrFail LaunchReply
  return reply.payload

end Bundle

end SignOn
