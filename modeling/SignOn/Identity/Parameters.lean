import SignOn.Identity.Account
import SignOn.Identity.Authority

/-! # Parameters of an operation

What a caller asks for: the client, the scopes, the authority and the account, how the token is to
be bound, and how the request is to be made. Two requests are alike if they differ in nothing but
the text that tells their records apart. -/

namespace SignOn

open Json

/-! ### Binding -/

/-- How a token is bound: to nobody, or to one request that must be proved. -/
inductive TokenBinding where
  | bearer
  | proof (httpMethod : Option String) (url : Url) (nonce : Option String)
  deriving DecidableEq, Inhabited

namespace TokenBinding

/-- The name of a binding. -/
def label : TokenBinding → String
  | .bearer => "Bearer"
  | .proof _ _ _ => "PoP"

/-- The written names of the bindings. -/
def tags : List String := ["bearer", "pop"]

/-- The fields of a binding to a request. -/
def proofForm : Form TokenBinding :=
  TokenBinding.proof <$> .optional "http_method" <*> .required "url" <*> .optional "nonce"

/-- Reads the tag that says which binding follows. -/
def decodeTag : Decoder String
  | .string tag =>
    if tag ∈ tags then .ok tag else .error (.here (.unknownVariant tag tags))
  | v => Decoder.mismatch v "variant identifier"

/-- The fault moved to the root, as the fields beside a tag are read aside. -/
def aside {α : Type} : Except Fault α → Except Fault α
  | .ok a => .ok a
  | .error f => .error f.atRoot

/-- Reads the fields that follow the tag in a list. -/
def decodeItems (tag : String) (rest : List Value) : Except Fault TokenBinding :=
  let surplus (n : Nat) : Fault :=
    .here (.wrongLength rest.length (Form.elementCount n ++ " in sequence"))
  if tag = "bearer" then
    if rest.isEmpty then .ok .bearer else .error (surplus 0)
  else aside (proofForm.readItems "struct variant AuthenticationScheme::Pop" (surplus 3) rest)

instance : Wire TokenBinding where
  encode
    | .bearer => .object [("scheme", .string "bearer")]
    | .proof httpMethod url nonce => .ofMembers
        [("scheme", .string "pop"), ("http_method", Wire.encode httpMethod),
          ("url", Wire.encode url), ("nonce", Wire.encode nonce)]
  decode
    | .object members =>
      match members.lookup "scheme" with
      | none => .error (.here (.missing "scheme"))
      | some tag => do
        let tag ← Except.below (.member "scheme") (decodeTag tag)
        if tag = "bearer" then .ok .bearer
        else aside (proofForm.readMembers (members.filter fun m => m.1 ≠ "scheme"))
    | .array [] => .error (.here (.missing "scheme"))
    | .array (tag :: rest) => do
      let tag ← Except.below (.item 0) (decodeTag tag)
      decodeItems tag rest
    | v => Decoder.mismatch v "internally tagged enum AuthenticationScheme"

end TokenBinding

/-! ### Parameters -/

/-- What a caller asks for. -/
structure Parameters where
  clientId : ClientId
  redirectUri : String
  scopes : ScopeSet
  authority : Authority
  account : Option Account
  binding : TokenBinding
  correlationId : Option String
  forceRefresh : Bool
  claims : Option String
  requiredProtocol : Option String
  deriving DecidableEq

namespace Parameters

/-- A request for a token that is bound to nobody, for no account in particular. -/
def plain (clientId : ClientId) (redirectUri : String) (authority : Authority)
    (scopes : ScopeSet) : Parameters where
  clientId
  redirectUri
  scopes
  authority
  account := none
  binding := .bearer
  correlationId := none
  forceRefresh := false
  claims := none
  requiredProtocol := none

/-- The parameters without the text that tells records apart: what two alike requests share. -/
def identity (p : Parameters) : Parameters := { p with correlationId := none }

/-- Do the two ask for the same? -/
def alike (a b : Parameters) : Bool := a.identity = b.identity

/-- The fields of written parameters. -/
def form : Form Parameters :=
  Parameters.mk <$> .required "client_id" <*> .required "redirect_uri" <*> .required "scopes"
    <*> .required "authority" <*> .optional "account" <*> .required "auth_scheme"
    <*> .optional "correlation_id" <*> .required "force_refresh" <*> .optional "claims"
    <*> .optional "required_broker_protocol_version"

instance : Wire Parameters where
  encode p := .ofMembers
    [("client_id", Wire.encode p.clientId), ("redirect_uri", Wire.encode p.redirectUri),
      ("scopes", Wire.encode p.scopes), ("authority", Wire.encode p.authority),
      ("account", Wire.encode p.account), ("auth_scheme", Wire.encode p.binding),
      ("correlation_id", Wire.encode p.correlationId),
      ("force_refresh", Wire.encode p.forceRefresh), ("claims", Wire.encode p.claims),
      ("required_broker_protocol_version", Wire.encode p.requiredProtocol)]
  decode := form.decode "OperationParameters"

end Parameters

end SignOn
