import SignOn.Command.Controller
import SignOn.Local.Strategy

/-! # The local controller

A token comes from the store if one is there that lasts long enough and covers what is asked for;
otherwise the stored refresh token is redeemed. A refresh token that the server no longer takes is
taken out of the store. With the person present a code is redeemed instead. Tokens are stored before
they are handed out, and what is handed out is what the store kept. -/

namespace SignOn

/-- The parts of a local controller, and how long before its end a stored token counts as ended. -/
structure LocalController (σ : Type) where
  strategy : Strategy σ
  vault : Vault σ
  screen : Screen σ
  clock : σ → Clock
  expiryBuffer : Duration := defaultExpiryBuffer

namespace LocalController

variable {σ : Type}

/-- The account that was asked for is not stored, or none was asked for. -/
def noAccount : Failure :=
  .plain Code.noAccountFound "The account is not present in the token cache."

/-- The account has no refresh token. -/
def noRefreshToken : Failure :=
  .plain Code.noTokensFound "No refresh token is cached for the account."

/-- The server did not say whose token it is, and nobody was asked for. -/
def unknownAccount : Failure :=
  .plain Code.noAccountFound "The token response did not identify an account."

/-- The token would end before it begins, or never. -/
def badLifetime (lifetime : Duration) : Failure :=
  .plain Code.invalidTokenLifetime
    ("Token lifetime of " ++ lifetime.text ++ " is out of range.")

/-- The store does not give back what it was given. -/
def lostTokens : Failure := .plain Code.storageError "Saved tokens could not be loaded back."

/-- May the stored access token be handed out, as far as its end and its scopes go? -/
def isUsable (c : LocalController σ) (p : Parameters) (token : AccessToken) (now : Moment) : Bool :=
  !p.forceRefresh && !token.isExpiredAt now c.expiryBuffer && token.scopes.covers p.scopes

/-- The projection of the stored credentials, if they may be handed out. -/
def stored (c : LocalController σ) (p : Parameters) (record : Credentials) (now : Moment) :
    Action σ (Option IssuedToken) :=
  match record.accessToken with
  | none => return none
  | some token =>
    if c.isUsable p token now then
      ExceptT.mk do
        if ← c.strategy.accepts p record then return .ok (IssuedToken.ofCredentials? record true)
        else return .ok none
    else return none

/-- The credentials that a response of the server brings for an account. -/
def credentialsOf (p : Parameters) (response : TokenResponse) (account : Account)
    (now expiresOn : Moment) : Credentials where
  account
  accessToken := some ⟨response.accessToken, response.scopes.getD p.scopes, now, expiresOn⟩
  refreshToken := response.refreshToken
  idToken := response.idToken

/-- The end of a token that is issued now, if it has one after now. -/
def expiryOf (response : TokenResponse) (now : Moment) : Except Failure Moment :=
  if response.expiresIn.isPositive then
    match now.add? response.expiresIn with
    | some expiresOn => .ok expiresOn
    | none => .error (badLifetime response.expiresIn)
  else .error (badLifetime response.expiresIn)

/-- Stores what a response of the server brings, and gives what the store kept of it. -/
def save (c : LocalController σ) (p : Parameters) (response : TokenResponse) (account : Account)
    (now : Moment) : Action σ IssuedToken := do
  let expiresOn ← Action.ofExcept (expiryOf response now)
  let records ← Vault.ask (c.vault.save p.clientId (credentialsOf p response account now expiresOn))
  let own := records.find? fun r => r.account.homeAccountId = account.homeAccountId
  match own.bind fun r => IssuedToken.ofCredentials? r false with
  | some issued => return issued
  | none => throw lostTokens

/-- Redeems the refresh token of an account. -/
def refresh (c : LocalController σ) (p : Parameters) (record : Credentials) (token : Secret)
    (now : Moment) : Action σ Acquisition := do
  let result ← c.strategy.requestToken (c.strategy.tokenRequest p (.refreshToken token))
  match result.response? with
  | some response =>
    let issued ← c.save p response (response.account.getD record.account) now
    return ⟨none, some result, some issued⟩
  | none =>
    if result.error.any fun e => e.error = Code.invalidGrant then
      let _ ← Vault.ask (c.vault.removeCredential ⟨p.clientId, record.account.homeAccountId⟩
        .refreshToken)
      return .ofToken result
    else return .ofToken result

/-- A token for the account asked for, without the person, as of a given moment. -/
def acquireSilentAt (c : LocalController σ) (p : Parameters) (now : Moment) :
    Action σ Acquisition := do
  match p.account with
  | none => throw noAccount
  | some account =>
    match ← Vault.ask (c.vault.load p.clientId account) with
    | [] => throw noAccount
    | record :: _ =>
      match ← c.stored p record now with
      | some issued => return .ofIssued issued
      | none =>
        match record.refreshToken with
        | none => throw noRefreshToken
        | some token => c.refresh p record token now

/-- Redeems the code that the person agreed to. -/
def redeem (c : LocalController σ) (p : Parameters) (authorization : AuthorizationResult)
    (grant : AuthorizationGrant) : Action σ Acquisition := do
  let result ← c.strategy.requestToken
    (c.strategy.tokenRequest p (.authorizationCode grant.code grant.codeVerifier))
  match result.response? with
  | none => return ⟨some authorization, some result, none⟩
  | some response =>
    match response.account <|> p.account with
    | none => throw unknownAccount
    | some account =>
      let now ← (fun s => (.ok (c.clock s).now, s) : Action σ Moment)
      let issued ← c.save p response account now
      return ⟨some authorization, some result, some issued⟩

/-- A token that the person agrees to. -/
def acquireInteractive (c : LocalController σ) (p : Parameters) (session : SessionHandle σ) :
    Flow σ Acquisition := do
  let authorization ← c.strategy.authorize p c.screen session
  match authorization.grant? with
  | none => return .ofAuthorization authorization
  | some grant => Flow.act (c.redeem p authorization grant)

/-- A token for the account asked for, without the person. -/
def acquireSilent (c : LocalController σ) (p : Parameters) : Action σ Acquisition := fun s =>
  c.acquireSilentAt p (c.clock s).now s

/-- The accounts of the client. -/
def accounts (c : LocalController σ) (p : Parameters) : Action σ (List Account) :=
  Vault.ask (c.vault.accounts p.clientId)

/-- Whether there was a record of the account asked for to remove. -/
def removeAccount (c : LocalController σ) (p : Parameters) : Action σ Bool :=
  match p.account with
  | none => return false
  | some account => Vault.ask (c.vault.removeAccount ⟨p.clientId, account.homeAccountId⟩)

/-- The local controller as one of the controllers of a command. A device is never shared here, and
the current accounts are all accounts. -/
def controller (c : LocalController σ) : Controller σ where
  name := "local"
  acquireInteractive := c.acquireInteractive
  acquireSilent p := Flow.act (c.acquireSilent p)
  accounts p := Flow.act (c.accounts p)
  removeAccount p := Flow.act (c.removeAccount p)
  deviceMode _ := return false
  currentAccount p := Flow.act (c.accounts p)
  removeCurrentAccount p := Flow.act (c.removeAccount p)

end LocalController

end SignOn
