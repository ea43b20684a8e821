import SignOn.Json.Member
import SignOn.Record.Outcome
import SignOn.Rehearsal.ExecutorTrial

/-! # Written scripts

A script as a JSON object. What it leaves out is the usual thing: a transport without replies
reaches nobody, a person who is not mentioned does nothing, and a store without faults works. -/

namespace SignOn

open Json

/-! ### Failures -/

/-- Reads where a transport broke, the message, and the cause. -/
def ReachFailure.decodeTold : Decoder (ReachFailure × String × Option String) := fun v => do
  return (← v.getD "category" .connection, ← v.getD "message" "", ← v.get? String "source")

/-- Reads the failure of a transport. -/
def TransportFailure.decode : Decoder TransportFailure := fun v => do
  let (category, message, source) ← ReachFailure.decodeTold v
  return ⟨category, ← v.get TransportKind "strategy", message, source⟩

/-- Reads a failure of the client. -/
def ClientFailure.decode : Decoder ClientFailure := fun v => do
  return ⟨← v.getD "code" "", ← v.getD "message" "", (← v.get? String "source").map .note,
    ← v.readList "suppressed" TransportFailure.decode, ← v.getD "telemetry" .none⟩

/-- Reads a refusal of the server. -/
def ServiceFailure.decode : Decoder ServiceFailure := fun v => do
  return ⟨← v.getD "code" "", ← v.getD "message" "", ← v.get? UInt16 "http_status",
    ← v.get? String "sub_error", ← v.getD "telemetry" .none⟩

/-- Reads a failure of the named kind. -/
def Failure.decode : Decoder Failure := fun v => do
  match ← v.get String "kind" with
  | "client" => .client <$> ClientFailure.decode v
  | "service" => .service <$> ServiceFailure.decode v
  | "ui_required" => .personRequired <$> ServiceFailure.decode v
  | "user_cancel" => .cancelled <$> v.getD "message" ""
  | "device_registration_required" =>
    return .deviceRegistration (← ServiceFailure.decode v) (← v.get? String "username")
  | kind => .error (.here (.refused ("no failure is called " ++ kind)))

namespace Rehearsal

/-! ### Collaborators -/

/-- Reads what a transport does. -/
def TransportReply.decode : Decoder TransportReply := fun v => do
  if let some bundle ← v.get? Bundle "answer" then return .answer bundle
  else if let some (category, message, source) ← v.read? "fail" ReachFailure.decodeTold then
    return .fail category message source
  else return .unreachable

/-- Reads a transport. -/
def TransportScript.decode : Decoder TransportScript := fun v => do
  return ⟨← v.get TransportKind "kind", ← v.readList "replies" TransportReply.decode,
    ← v.get? (List String) "supports"⟩

/-- Reads what the person does. -/
def ScreenScript.decode : Decoder ScreenScript := fun v => do
  if let some k ← v.read? "respond" Continuation.decode then return .respond k
  else if let some f ← v.read? "fail" Failure.decode then return .fail f
  else if ← v.flag "cancel" then return .cancel
  else return .ignore

/-- Reads what a scripted controller does. -/
def Reply.decode : Decoder Reply := fun v => do
  if let some a ← v.read? "token" Acquisition.decode then return .token a
  else if let some found ← v.get? (List Account) "accounts" then return .accounts found
  else if let some b ← v.get? Bool "flag" then return .flag b
  else if let some f ← v.read? "fail" Failure.decode then return .fail f
  else return .breakOff

/-- Reads how saving fails. -/
def SaveFault.decode : Decoder SaveFault
  | .string "empty" => .ok .answersNothing
  | .string "strip" => .ok .dropsAccessToken
  | v => .fail <$> Wire.decode v

/-- Reads which operations of a store fail. -/
def StoreFaults.decode : Decoder StoreFaults := fun v => do
  return ⟨← v.get? StoreFailure "load", ← v.read? "save" SaveFault.decode,
    ← v.get? StoreFailure "remove_account", ← v.get? StoreFailure "remove_credential",
    ← v.get? StoreFailure "get_accounts"⟩

/-- Reads a record that is stored at first. -/
def decodeSeed : Decoder (ClientId × Credentials) := fun v => do
  return (← v.get ClientId "client_id", ← v.get Credentials "record")

/-- Reads the person of a controller. -/
def decodeScreen : Decoder ScreenScript := fun v => do
  return (← v.read? "ui" ScreenScript.decode).getD .ignore

/-! ### Controllers -/

/-- Reads a scripted controller. -/
def ScriptedRole.decode : Decoder ScriptedRole := fun v => do
  return ⟨← v.readList "replies" Reply.decode, ← v.get? String "gate"⟩

/-- Reads a broker controller. -/
def BrokerRole.decode : Decoder BrokerRole := fun v => do
  return {
    identity := ⟨← v.get PackageName "package", ← v.get String "app_version"⟩
    transports := ← v.readList "transports" TransportScript.decode
    maxVersion := ← v.get? String "max_protocol_version"
    helloCache := ← v.get? String "hello_cache"
    helloTtl := ← v.get? Duration "hello_ttl"
    screen := ← decodeScreen v }

/-- Reads a local controller. -/
def LocalRole.decode : Decoder LocalRole := fun v => do
  return {
    tokens := ← v.readList "tokens" Wire.decode
    rejectCached := ← v.flag "reject_cached"
    pageFailure := ← v.read? "authorization_error" Failure.decode
    seed := ← v.readList "seed" decodeSeed
    faults := (← v.read? "faults" StoreFaults.decode).getD {}
    expiryBuffer := ← v.get? Duration "expiry_buffer"
    screen := ← decodeScreen v }

/-- Reads a controller of the named type. -/
def Role.decode : Decoder Role := fun v => do
  match ← v.get String "type" with
  | "scripted" => .scripted <$> ScriptedRole.decode v
  | "broker" => .broker <$> BrokerRole.decode v
  | "local" => .localApp <$> LocalRole.decode v
  | kind => .error (.here (.refused ("no controller is called " ++ kind)))

/-- Reads a cast: the controllers by name. -/
def Cast.decode : Decoder Cast
  | .object members => members.mapM fun (name, v) => do
    return (name, ← Except.below (.member name) (Role.decode v))
  | v => Decoder.mismatch v "a map"

/-! ### Commands and calls -/

/-- Reads a command, which may turn out not to be one; `fresh` is its correlation id if it has
none. -/
def decodeCommand (fresh : String) : Decoder (Except CommandProblem (Command String)) := fun v => do
  let made := Command.new (← v.get Operation "kind") (← v.get Parameters "params")
    (← v.get (List String) "controllers") fresh
  match ← v.get? String "public_api_id" with
  | none => return made
  | some apiId => return made.map fun c => c.reportedAs apiId

/-- Reads a session that belongs to no registry, and how it is resolved if it already is. -/
def decodeSession : Decoder Session := fun v => do
  let session := Session.standalone (← v.getD "correlation_id" "corr-session")
    (← v.get? Duration "timeout")
  let session := if ← v.flag "cancelled" then (session.resolve .cancelled).2 else session
  match ← v.read? "delivered" Continuation.decode with
  | none => return session
  | some k => return (session.resolve (.completed k)).2

/-- Reads how it goes what must be settled before an attempt. -/
def Readiness.decode : Decoder Readiness := fun v => do
  if let some (category, message, source) ← v.read? "fail" ReachFailure.decodeTold then
    return .unreachable category message source
  else if let some f ← v.read? "fatal" Failure.decode then return .fatal f
  else return .ready

/-- Reads a call of a trial. -/
def ScriptedCall.decode : Decoder ScriptedCall := fun v => do
  return {
    api := ← v.get BrokerApi "api"
    package := ← v.get PackageName "package"
    payload := ← v.getD "payload" .empty
    method := ← v.getD "method" "echo"
    key := ← v.getD "key" "value"
    buildFailure := ← v.read? "bundle_error" Failure.decode }

end Rehearsal

end SignOn
