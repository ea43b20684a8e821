import SignOn.Outcome.Authorization
import SignOn.Outcome.Token

/-! # Outcomes of an acquisition

What a controller reports of a whole acquisition: the authorization step of an interactive one, the
token request, and the projection that the application gets. It has succeeded if the projection is
there and no step that was taken failed. -/

namespace SignOn

/-- What a controller reports of an acquisition. -/
structure Acquisition where
  authorization : Option AuthorizationResult
  token : Option TokenResult
  issued : Option IssuedToken
  deriving DecidableEq

namespace Acquisition

/-- Nothing happened. -/
def nothing : Acquisition := ⟨none, none, none⟩

/-- A token was there. -/
def ofIssued (issued : IssuedToken) : Acquisition := ⟨none, none, some issued⟩

/-- The authorization step did not succeed. -/
def ofAuthorization (result : AuthorizationResult) : Acquisition := ⟨some result, none, none⟩

/-- The token request did not succeed. -/
def ofToken (result : TokenResult) : Acquisition := ⟨none, some result, none⟩

/-- Is the projection there, and did no step that was taken fail? -/
def succeeded (a : Acquisition) : Bool :=
  a.issued.isSome && a.authorization.all AuthorizationResult.isSuccess
    && a.token.all TokenResult.isSuccess

/-- The projection of an acquisition that succeeded. -/
def issued? (a : Acquisition) : Option IssuedToken := if a.succeeded then a.issued else none

/-- The code of the error of the token request. -/
def tokenErrorCode (a : Acquisition) : Option String :=
  a.token.bind fun t => t.error.map (·.error)

end Acquisition

end SignOn
