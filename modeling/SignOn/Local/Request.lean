import SignOn.Identity.Parameters
import SignOn.Outcome.Authorization
import SignOn.Session.Basic

/-! # Requests of the local path

Without a broker the application speaks with the server itself: a page is shown on which the person
agrees, and the code that comes back, or a refresh token from an earlier sign-on, is redeemed for an
access token. -/

namespace SignOn

/-- A request for a page to agree on: where it is, the state that must come back from it, and the
verifier that goes with its code. -/
structure AuthorizationRequest where
  url : Url
  state : String
  codeVerifier : Option Secret
  deriving DecidableEq

namespace AuthorizationRequest

/-- The error that a continuation tells of. -/
def errorOf (data : Bundle) : AuthorizationError :=
  ⟨(data.string? "error").getD Code.unknownError, data.string? "error_description", none⟩

/-- The outcome of a page that came back with a code, or with none. -/
def outcomeOfCode (r : AuthorizationRequest) (data : Bundle) : AuthorizationResult :=
  match data.string? "code" with
  | none => .failure .fail (some (errorOf data))
  | some code =>
    if data.string? "state" = some r.state then .success ⟨⟨code⟩, some r.state, r.codeVerifier⟩
    else .failure .fail (some ⟨Code.stateMismatch,
      some "Returned state does not match the request.", none⟩)

/-- The outcome that a continuation stands for: a code counts only with the state of the request. -/
def outcome (r : AuthorizationRequest) (c : Continuation) : AuthorizationResult :=
  if c.resultCode = Continuation.cancelled then .failure .userCancel none
  else if c.resultCode = Continuation.replaced then .replaced
  else if c.resultCode = Continuation.completed then r.outcomeOfCode c.data
  else .failure .fail (some (errorOf c.data))

end AuthorizationRequest

/-- What is shown to the person. -/
inductive Launch where
  | browser (requestCode : Int) (url : Url)
  | broker (requestCode : Int) (payload : Bundle)
  deriving DecidableEq

/-- What is redeemed for an access token. -/
inductive TokenGrant where
  | authorizationCode (code : Secret) (codeVerifier : Option Secret)
  | refreshToken (token : Secret)
  deriving DecidableEq

/-- The grant with the names of its parts, for messages that show it as data. -/
def TokenGrant.shown : TokenGrant → String
  | .refreshToken token => "RefreshToken(" ++ token.shown ++ ")"
  | .authorizationCode code codeVerifier =>
    let verifier :=
      match codeVerifier with
      | none => "None"
      | some v => "Some(" ++ v.shown ++ ")"
    "AuthorizationCode \x7b code: " ++ code.shown ++ ", code_verifier: " ++ verifier ++ " \x7d"

/-- A request for an access token. -/
structure TokenRequest where
  clientId : ClientId
  redirectUri : String
  scopes : ScopeSet
  grant : TokenGrant
  claims : Option String
  correlationId : Option String
  deriving DecidableEq

/-- The request that redeems a grant as the parameters ask. -/
def TokenRequest.redeeming (p : Parameters) (grant : TokenGrant) : TokenRequest where
  clientId := p.clientId
  redirectUri := p.redirectUri
  scopes := p.scopes
  grant
  claims := p.claims
  correlationId := p.correlationId

end SignOn
