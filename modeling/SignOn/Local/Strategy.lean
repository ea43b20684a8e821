import SignOn.Local.Request
import SignOn.Outcome.Token
import SignOn.Store.Basic

/-! # What the local path relies on

The application brings the part that talks to the server, the part that shows pages, and the store.
They act on surroundings that this library knows nothing of, and may fail. A strategy must say how a
page is requested and how a token is; for the rest there is a usual way. -/

namespace SignOn

/-- Shows something to the person and does not wait for the outcome. -/
structure Screen (σ : Type) where
  present : Launch → Action σ Unit

/-- Shows a page and waits in the session for what comes back from it. -/
def authorizeWith {σ : Type} (requestPage : Action σ AuthorizationRequest) (screen : Screen σ)
    (session : SessionHandle σ)
    (outcome : AuthorizationRequest → Continuation → AuthorizationResult) :
    Flow σ AuthorizationResult := do
  let request ← Flow.act requestPage
  Flow.act (screen.present (.browser Continuation.browserFlow request.url))
  match ← session.wait with
  | .completed continuation => return outcome request continuation
  | .cancelled => return .replaced

/-- Talks to the server. -/
structure Strategy (σ : Type) where
  requestPage : Parameters → Action σ AuthorizationRequest
  requestToken : TokenRequest → Action σ TokenResult
  tokenRequest : Parameters → TokenGrant → TokenRequest := .redeeming
  accepts : Parameters → Credentials → StateM σ Bool := fun _ _ => pure true
  outcome : AuthorizationRequest → Continuation → AuthorizationResult :=
    AuthorizationRequest.outcome
  authorize : Parameters → Screen σ → SessionHandle σ → Flow σ AuthorizationResult :=
    fun p screen session => authorizeWith (requestPage p) screen session outcome

/-- Keeps credentials; each of its answers may be a failure. -/
structure Vault (σ : Type) where
  load : ClientId → Account → StateM σ (Except StoreFailure (List Credentials))
  save : ClientId → Credentials → StateM σ (Except StoreFailure (List Credentials))
  removeAccount : StoreKey → StateM σ (Except StoreFailure Bool)
  removeCredential : StoreKey → CredentialKind → StateM σ (Except StoreFailure Bool)
  accounts : ClientId → StateM σ (Except StoreFailure (List Account))

namespace Vault

variable {σ : Type}

/-- An answer of the store, its failure being that of a command. -/
def ask {α : Type} (answer : StateM σ (Except StoreFailure α)) : Action σ α :=
  ExceptT.mk do return (← answer).mapError Failure.ofStore

/-- The token store at a place, which does not fail. -/
def ofStore (place : Place σ TokenStore) : Vault σ where
  load clientId account := fun s => (.ok ((place.get s).load clientId account.homeAccountId), s)
  save clientId record := fun s =>
    let store := place.get s
    (.ok [store.savedRecord clientId record], place.set (store.save clientId record) s)
  removeAccount key := fun s =>
    let store := place.get s
    (.ok (store.find? key).isSome, place.set (store.remove key) s)
  removeCredential key kind := fun s =>
    let store := place.get s
    (.ok (store.hasCredential key kind), place.set (store.dropCredential key kind) s)
  accounts clientId := fun s => (.ok ((place.get s).accounts clientId), s)

end Vault

end SignOn
