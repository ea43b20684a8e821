import SignOn.Identity.Secret
import SignOn.Failure.Basic

/-! # Outcomes of the authorization step

In the first step of an interactive sign-on the person agrees, and the application gets a code. The
step succeeds only if it says so and the code is there. -/

namespace SignOn

open Json

/-- How the step ended. -/
inductive AuthorizationStatus where
  | success
  | fail
  | userCancel
  | sdkCancel
  deriving DecidableEq, Repr, Inhabited

/-- The written names. -/
def AuthorizationStatus.names : List (String × AuthorizationStatus) :=
  [("success", .success), ("fail", .fail), ("user_cancel", .userCancel),
    ("sdk_cancel", .sdkCancel)]

instance : Wire AuthorizationStatus :=
  ⟨fun s => .string (nameIn AuthorizationStatus.names s), Decoder.named AuthorizationStatus.names⟩

/-- What a failed step tells. -/
structure AuthorizationError where
  error : String
  description : Option String
  usernameToRegister : Option String
  deriving DecidableEq, Repr, Inhabited

namespace AuthorizationError

/-- The written fields. -/
def form : Form AuthorizationError :=
  AuthorizationError.mk <$> .required "error" <*> .optional "error_description"
    <*> .optional "upn_to_register"

instance : Wire AuthorizationError where
  encode e := .ofMembers
    [("error", Wire.encode e.error), ("error_description", Wire.encode e.description),
      ("upn_to_register", Wire.encode e.usernameToRegister)]
  decode := form.decode "AuthorizationErrorResponse"

end AuthorizationError

/-- What a step that succeeded gives: the code, the state that came back, and the verifier of the
request that the code answers. -/
structure AuthorizationGrant where
  code : Secret
  state : Option String
  codeVerifier : Option Secret
  deriving DecidableEq, Inhabited

namespace AuthorizationGrant

/-- The written fields. -/
def form : Form AuthorizationGrant :=
  AuthorizationGrant.mk <$> .required "code" <*> .optional "state" <*> .optional "code_verifier"

instance : Wire AuthorizationGrant where
  encode g := .ofMembers
    [("code", Wire.encode g.code), ("state", Wire.encode g.state),
      ("code_verifier", Wire.encode g.codeVerifier)]
  decode := form.decode "AuthorizationResponse"

end AuthorizationGrant

/-- The outcome of the step. -/
structure AuthorizationResult where
  status : AuthorizationStatus
  response : Option AuthorizationGrant
  error : Option AuthorizationError
  deriving DecidableEq, Inhabited

namespace AuthorizationResult

/-- The step succeeded. -/
def success (grant : AuthorizationGrant) : AuthorizationResult := ⟨.success, some grant, none⟩

/-- The step ended without a code. -/
def failure (status : AuthorizationStatus) (error : Option AuthorizationError) :
    AuthorizationResult :=
  ⟨status, none, error⟩

/-- A newer request took the place of this one. -/
def replaced : AuthorizationResult :=
  failure .sdkCancel (some ⟨Code.cancelledBySdk,
    some "Authorization was cancelled by a newer interactive request.", none⟩)

/-- Is there a code to redeem? -/
def isSuccess (r : AuthorizationResult) : Bool := r.status = .success && r.response.isSome

/-- The code to redeem, if the step succeeded. -/
def grant? (r : AuthorizationResult) : Option AuthorizationGrant :=
  if r.isSuccess then r.response else none

/-- The written fields. -/
def form : Form AuthorizationResult :=
  AuthorizationResult.mk <$> .required "status" <*> .optional "response" <*> .optional "error"

instance : Wire AuthorizationResult where
  encode r := .ofMembers
    [("status", Wire.encode r.status), ("response", Wire.encode r.response),
      ("error", Wire.encode r.error)]
  decode := form.decode "AuthorizationResult"

end AuthorizationResult

end SignOn
