import SignOn.Json.Member
import SignOn.Local.Request
import SignOn.Outcome.Command
import SignOn.Record.Failure

/-! # Records of outcomes

The report of an acquisition, the value of a command, how a command ended, and what is shown to a
person or sent to a server on the way there, as JSON objects. Three of them are also read: a report,
a value, and a continuation. -/

namespace SignOn

open Json

/-- The record of an acquisition. -/
def Acquisition.record (a : Acquisition) : Value := .ofMembers
  [("authorization", Wire.encode a.authorization), ("token", Wire.encode a.token),
    ("local", Wire.encode a.issued), ("succeeded", .bool a.succeeded),
    ("token_error_code", Wire.encode a.tokenErrorCode)]

/-- Reads the steps of an acquisition from its record. -/
def Acquisition.decode : Decoder Acquisition := fun v => do
  return ⟨← v.get? AuthorizationResult "authorization", ← v.get? TokenResult "token",
    ← v.get? IssuedToken "local"⟩

/-- The record of the value of a command: its kind names it. -/
def CommandOutput.record : CommandOutput → Value
  | .token issued => .object [("token", Wire.encode issued)]
  | .accounts found => .object [("accounts", Wire.encode found)]
  | .removed b => .object [("removed", .bool b)]
  | .sharedDevice b => .object [("shared_device_mode", .bool b)]

/-- Reads the value of a command from its record. -/
def CommandOutput.decode : Decoder CommandOutput
  | .object [("token", v)] => .token <$> Wire.decode v
  | .object [("accounts", v)] => .accounts <$> Wire.decode v
  | .object [("removed", v)] => .removed <$> Wire.decode v
  | .object [("shared_device_mode", v)] => .sharedDevice <$> Wire.decode v
  | v => Decoder.mismatch v "the value of a command"

/-- The record of what the controllers of a command gave. -/
def CommandValue.record : CommandValue → Value
  | .acquisition a => .object [("token_result", a.record)]
  | .output o => .object [("output", o.record)]

namespace CommandStatus

/-- The parts of the record of a status. -/
def parts (s : CommandStatus) : List (String × Value) :=
  ("status", .string s.label) ::
    match s with
    | .completed output => [("output", output.record)]
    | .cancelled => []
    | .failed f => [("failure", f.record)]

/-- The record of how a command ended. -/
def record (s : CommandStatus) : Value := .ofMembers s.parts

end CommandStatus

/-- The record of the result of a command. -/
def CommandResult.record (r : CommandResult) : Value := .ofMembers
  (r.status.parts ++ [("correlation_id", .string r.correlationId),
    ("error_code", .ofOption (fun f => .string f.code) r.status.failure?)])

/-! ### On the way there -/

/-- The record of a continuation. -/
def Continuation.record (k : Continuation) : Value := .ofMembers
  [("request_code", .number (.whole k.requestCode)),
    ("result_code", .number (.whole k.resultCode)), ("data", Wire.encode k.data)]

/-- Reads a continuation from its record; one that brought nothing may leave that out. -/
def Continuation.decode : Decoder Continuation := fun v => do
  return ⟨← v.int "request_code", ← v.int "result_code", ← v.getD "data" .empty⟩

/-- The record of the end of a session. -/
def Signal.record : Signal → Value
  | .cancelled => .string "cancelled"
  | .completed k => .object [("completed", k.record)]

/-- The record of what is redeemed. -/
def TokenGrant.record : TokenGrant → Value
  | .refreshToken token => .object [("refresh_token", Wire.encode token)]
  | .authorizationCode code verifier => .object [("authorization_code",
      .ofMembers [("code", Wire.encode code), ("code_verifier", Wire.encode verifier)])]

/-- The record of a request for an access token. -/
def TokenRequest.record (r : TokenRequest) : Value := .ofMembers
  [("client_id", Wire.encode r.clientId), ("redirect_uri", .string r.redirectUri),
    ("scopes", Wire.encode r.scopes), ("grant", r.grant.record), ("claims", Wire.encode r.claims),
    ("correlation_id", Wire.encode r.correlationId)]

/-- The record of what is shown to the person. -/
def Launch.record : Launch → Value
  | .browser code url => .object [("browser", .ofMembers
      [("request_code", .number (.whole code)), ("url", Wire.encode url)])]
  | .broker code payload => .object [("broker", .ofMembers
      [("request_code", .number (.whole code)), ("payload", Wire.encode payload)])]

end SignOn
