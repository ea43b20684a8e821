import SignOn.Outcome.Acquisition

/-! # One failure for every path

A failure may come as the code of a broker, as the error of a token request, as an authorization
that did not succeed, as a work that broke off, or as something nobody foresaw. Each function here
gives the one failure that stands for it, and depends on nothing else, so the same failure is
reported whichever path it took. -/

namespace SignOn

namespace Failure

/-- The message where the server sent neither tokens nor an error. -/
def noErrorFromService : String := "Request failed, but no error returned back from service."

/-- The failure of a token request that sent an error. -/
def ofTokenError (e : TokenError) : Failure :=
  let service : ServiceFailure :=
    { code := e.error
      message := e.description.getD ""
      httpStatus := e.statusCode
      subError := e.subError
      telemetry :=
        { ServerTelemetry.none with errorCode := some e.error, subErrorCode := e.subError } }
  if Code.asksForPerson e.error then .personRequired service else .service service

/-- The failure of a token request, also of one that was not made. -/
def ofTokenResult (result : Option TokenResult) : Failure :=
  let failure :=
    match result.bind (·.error) with
    | some e => ofTokenError e
    | none => .service (.plain Code.unknownError noErrorFromService)
  match result.bind (·.telemetry) with
  | some told => failure.withTelemetry told
  | none => failure

/-- The failure of an authorization step that did not succeed. -/
def ofAuthorization (result : AuthorizationResult) : Failure :=
  if result.status = .userCancel then .cancelled "User cancelled the authorization request"
  else
    match result.error with
    | none =>
      .plain Code.nullErrorResponse "Authorization failed without an error response."
    | some e =>
      let message := e.description.getD ""
      if result.status = .fail then
        if e.error = Code.deviceRegistrationNeeded then
          .deviceRegistration (.plain e.error message) e.usernameToRegister
        else .service (.plain e.error message)
      else .plain e.error message

/-- The failure of an acquisition that did not succeed: the authorization step is looked at first,
and the token request where that step was not taken or succeeded. -/
def ofAcquisition (a : Acquisition) : Failure :=
  match a.authorization with
  | some authorization =>
    if authorization.isSuccess then ofTokenResult a.token else ofAuthorization authorization
  | none => ofTokenResult a.token

/-- The failure that a bare code stands for. -/
def ofCode (code message : String) (subError username : Option String) : Failure :=
  if code = Code.userCancelled then .cancelled message
  else if Code.ofClient.contains code then .plain code message
  else
    let service : ServiceFailure := { ServiceFailure.plain code message with subError }
    if code = Code.deviceRegistrationNeeded then .deviceRegistration service username
    else if Code.asksForPerson code then .personRequired service
    else .service service

/-- What a piece of work may raise when it breaks off. -/
inductive Payload where
  | text (message : String)
  | other
  deriving DecidableEq, Repr, Inhabited

/-- The failure of a work that broke off. -/
def ofBreak (payload : Payload) : Failure :=
  let detail :=
    match payload with
    | .text message => message
    | .other => "non-string panic payload"
  .plain Code.interruptedOperation ("Command execution panicked: " ++ detail)

/-- An error of any origin: one of the failures, or something else that went wrong. -/
inductive Raised where
  | failure (f : Failure)
  | client (f : ClientFailure)
  | service (f : ServiceFailure)
  | other (origin : Origin)
  deriving DecidableEq, Repr, Inhabited

/-- The failure an error of any origin stands for: a failure stays what it is, and anything else
becomes the cause of a failure of the client. -/
def ofRaised : Raised → Failure
  | .failure f => f
  | .client f => .client f
  | .service f => .service f
  | .other origin =>
    let message := origin.texts.headD ""
    let code :=
      match origin with
      | .io _ => Code.ioError
      | .waitTimedOut => Code.timedOut
      | _ => Code.unknownError
    because code message origin

end Failure

end SignOn
