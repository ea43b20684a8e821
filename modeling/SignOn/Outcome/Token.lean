import SignOn.Identity.Account
import SignOn.Failure.Basic

/-! # Outcomes of a token request

The second step: the server is asked for a token. It answers with a token, with an error, or with
something that is neither; a token that comes with an error is no success. What the application is
handed in the end is a projection of the token and the account it belongs to. -/

namespace SignOn

open Json

/-- The error of a token request. -/
structure TokenError where
  error : String
  description : Option String
  subError : Option String
  statusCode : Option UInt16
  deriving DecidableEq, Repr, Inhabited

namespace TokenError

/-- An error of which only the code is known. -/
def plain (error : String) : TokenError := ⟨error, none, none, none⟩

/-- The written fields. -/
def form : Form TokenError :=
  TokenError.mk <$> .required "error" <*> .optional "error_description" <*> .optional "sub_error"
    <*> .optional "status_code"

instance : Wire TokenError where
  encode e := .ofMembers
    [("error", Wire.encode e.error), ("error_description", Wire.encode e.description),
      ("sub_error", Wire.encode e.subError), ("status_code", Wire.encode e.statusCode)]
  decode := form.decode "TokenErrorResponse"

end TokenError

/-- The tokens a server issued. Scopes are named where they differ from those asked for. -/
structure TokenResponse where
  accessToken : Secret
  refreshToken : Option Secret
  idToken : Option Secret
  expiresIn : Duration
  scopes : Option ScopeSet
  account : Option Account
  deriving DecidableEq

namespace TokenResponse

/-- The written fields. -/
def form : Form TokenResponse :=
  TokenResponse.mk <$> .required "access_token" <*> .optional "refresh_token"
    <*> .optional "id_token" <*> .required "expires_in" <*> .optional "scopes"
    <*> .optional "account"

instance : Wire TokenResponse where
  encode r := .ofMembers
    [("access_token", Wire.encode r.accessToken), ("refresh_token", Wire.encode r.refreshToken),
      ("id_token", Wire.encode r.idToken), ("expires_in", Wire.encode r.expiresIn),
      ("scopes", Wire.encode r.scopes), ("account", Wire.encode r.account)]
  decode := form.decode "TokenResponse"

end TokenResponse

/-- The outcome of a token request. -/
structure TokenResult where
  response : Option TokenResponse
  error : Option TokenError
  telemetry : Option ServerTelemetry
  deriving DecidableEq

namespace TokenResult

/-- Did a token come, and no error? -/
def isSuccess (r : TokenResult) : Bool := r.response.isSome && r.error.isNone

/-- The tokens, if the request succeeded. -/
def response? (r : TokenResult) : Option TokenResponse := if r.isSuccess then r.response else none

/-- The written fields. -/
def form : Form TokenResult :=
  TokenResult.mk <$> .optional "response" <*> .optional "error" <*> .optional "telemetry"

instance : Wire TokenResult where
  encode r := .ofMembers
    [("response", Wire.encode r.response), ("error", Wire.encode r.error),
      ("telemetry", Wire.encode r.telemetry)]
  decode := form.decode "TokenResult"

end TokenResult

/-- What the application is handed: a token, its end, what it is good for, and whose it is. -/
structure IssuedToken where
  accessToken : Secret
  expiresOn : Moment
  scopes : ScopeSet
  account : Account
  tenantId : Option String
  idToken : Option Secret
  servedFromCache : Bool
  correlationId : Option String
  deriving DecidableEq

namespace IssuedToken

/-- The projection of stored credentials; none if there is no access token. -/
def ofCredentials? (c : Credentials) (servedFromCache : Bool) : Option IssuedToken :=
  c.accessToken.map fun token =>
    { accessToken := token.secret
      expiresOn := token.expiresOn
      scopes := token.scopes
      account := c.account
      tenantId := c.account.realm
      idToken := c.idToken
      servedFromCache
      correlationId := none }

/-- The written fields. -/
def form : Form IssuedToken :=
  IssuedToken.mk <$> .required "access_token" <*> .required "expires_on" <*> .required "scopes"
    <*> .required "account" <*> .optional "tenant_id" <*> .optional "id_token"
    <*> .required "served_from_cache" <*> .optional "correlation_id"

instance : Wire IssuedToken where
  encode t := .ofMembers
    [("access_token", Wire.encode t.accessToken), ("expires_on", Wire.encode t.expiresOn),
      ("scopes", Wire.encode t.scopes), ("account", Wire.encode t.account),
      ("tenant_id", Wire.encode t.tenantId), ("id_token", Wire.encode t.idToken),
      ("served_from_cache", Wire.encode t.servedFromCache),
      ("correlation_id", Wire.encode t.correlationId)]
  decode := form.decode "LocalAuthenticationResult"

end IssuedToken

end SignOn
