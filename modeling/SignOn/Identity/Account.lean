import SignOn.Json.Form
import SignOn.Identity.Identifier
import SignOn.Identity.ScopeSet
import SignOn.Identity.Secret
import SignOn.Time.Moment

/-! # Accounts and their credentials

An account is one person's identity with one server. Beside it stand the credentials that were
issued for it: an access token with its scopes and its end, a token to refresh it with, and the raw
token that tells who the person is. -/

namespace SignOn

open Json

/-- How long before its end an access token stops being handed out, unless a caller says
otherwise. -/
def defaultExpiryBuffer : Duration := .ofMinutes 5

/-- The families of credentials an account may have. -/
inductive CredentialKind where
  | accessToken
  | refreshToken
  | idToken
  deriving DecidableEq, Repr, Inhabited

/-- The written names of the families. -/
def CredentialKind.names : List (String × CredentialKind) :=
  [("AccessToken", .accessToken), ("RefreshToken", .refreshToken), ("IdToken", .idToken)]

instance : Wire CredentialKind :=
  ⟨fun k => .string (nameIn CredentialKind.names k), Decoder.named CredentialKind.names⟩

/-! ### Accounts -/

/-- An account: the name it has everywhere, the name it has in its tenant, the host it was signed in
at, its tenant, and what the person is called. -/
structure Account where
  homeAccountId : HomeAccountId
  localAccountId : Option LocalAccountId
  environment : String
  realm : Option String
  username : Option String
  name : Option String
  deriving DecidableEq

namespace Account

/-- An account of which only the name and the host are known. -/
def bare (homeAccountId : HomeAccountId) (environment : String) : Account :=
  ⟨homeAccountId, none, environment, none, none, none⟩

/-- The fields of a written account. -/
def form : Form Account :=
  Account.mk <$> .required "home_account_id" <*> .optional "local_account_id"
    <*> .required "environment" <*> .optional "realm" <*> .optional "username"
    <*> .optional "name"

instance : Wire Account where
  encode a := .ofMembers
    [("home_account_id", Wire.encode a.homeAccountId),
      ("local_account_id", Wire.encode a.localAccountId),
      ("environment", Wire.encode a.environment), ("realm", Wire.encode a.realm),
      ("username", Wire.encode a.username), ("name", Wire.encode a.name)]
  decode := form.decode "AccountRecord"

/-- The account with the names of its fields, for messages that show it as data. -/
def shown (a : Account) : String :=
  let localId :=
    match a.localAccountId with
    | none => "None"
    | some id => "Some(" ++ id.shown ++ ")"
  "AccountRecord \x7b home_account_id: " ++ a.homeAccountId.shown
    ++ ", local_account_id: " ++ localId
    ++ ", environment: " ++ Text.quoted a.environment
    ++ ", realm: " ++ Text.quotedOption a.realm
    ++ ", username: " ++ Text.quotedOption a.username
    ++ ", name: " ++ Text.quotedOption a.name ++ " \x7d"

end Account

/-! ### Access tokens -/

/-- An access token, what it is good for, when it was stored and when it ends. -/
structure AccessToken where
  secret : Secret
  scopes : ScopeSet
  cachedAt : Moment
  expiresOn : Moment
  deriving DecidableEq

namespace AccessToken

/-- Does the token end within `buffer` of `now`? A sum that is no moment counts as an end. -/
def isExpiredAt (token : AccessToken) (now : Moment) (buffer : Duration) : Bool :=
  match now.add? buffer with
  | some limit => token.expiresOn.instant ≤ limit.instant
  | none => true

/-- The fields of a written access token. -/
def form : Form AccessToken :=
  AccessToken.mk <$> .required "secret" <*> .required "scopes" <*> .required "cached_at"
    <*> .required "expires_on"

instance : Wire AccessToken where
  encode t := .ofMembers
    [("secret", Wire.encode t.secret), ("scopes", Wire.encode t.scopes),
      ("cached_at", Wire.encode t.cachedAt), ("expires_on", Wire.encode t.expiresOn)]
  decode := form.decode "AccessTokenRecord"

end AccessToken

/-! ### Credentials -/

/-- An account with its credentials, at most one of each family. -/
structure Credentials where
  account : Account
  accessToken : Option AccessToken
  refreshToken : Option Secret
  idToken : Option Secret
  deriving DecidableEq

namespace Credentials

/-- An account without credentials. -/
def bare (account : Account) : Credentials := ⟨account, none, none, none⟩

/-- Is there a credential of the family? -/
def has (c : Credentials) : CredentialKind → Bool
  | .accessToken => c.accessToken.isSome
  | .refreshToken => c.refreshToken.isSome
  | .idToken => c.idToken.isSome

/-- The credentials without those of one family. -/
def drop (c : Credentials) : CredentialKind → Credentials
  | .accessToken => { c with accessToken := none }
  | .refreshToken => { c with refreshToken := none }
  | .idToken => { c with idToken := none }

/-- The credentials of `old` replaced where `new` has one; the account is that of `new`. -/
def renewed (old new : Credentials) : Credentials where
  account := new.account
  accessToken := new.accessToken <|> old.accessToken
  refreshToken := new.refreshToken <|> old.refreshToken
  idToken := new.idToken <|> old.idToken

/-- The fields of written credentials. -/
def form : Form Credentials :=
  Credentials.mk <$> .required "account" <*> .optional "access_token"
    <*> .optional "refresh_token" <*> .optional "id_token"

instance : Wire Credentials where
  encode c := .ofMembers
    [("account", Wire.encode c.account), ("access_token", Wire.encode c.accessToken),
      ("refresh_token", Wire.encode c.refreshToken), ("id_token", Wire.encode c.idToken)]
  decode := form.decode "CacheRecord"

end Credentials

end SignOn
