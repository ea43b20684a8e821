import SignOn.Json.Fault
import SignOn.Url.Basic

/-! # Authorities

The server that issues tokens, named by a URL: the scheme is `https`, and the first segment of the
path names the tenant. -/

namespace SignOn

open Json

instance : Wire Url where
  encode u := .string u.text
  decode
    | .string s =>
      match Url.parse s with
      | .ok u => .ok u
      | .error p => .error (.here (.refused (p.message ++ ": " ++ Text.quoted s)))
    | v => Decoder.mismatch v "a string representing an URL"

/-- Why a text names no authority. -/
inductive AuthorityProblem where
  | invalidUrl (problem : Url.Problem)
  | notSecure (scheme : String)
  | missingTenant
  deriving DecidableEq, Repr, Inhabited

/-- The message of a problem. -/
def AuthorityProblem.message : AuthorityProblem → String
  | .invalidUrl _ => "Authority URL is invalid."
  | .notSecure scheme => "Authority must use https, found `" ++ scheme ++ "`."
  | .missingTenant => "Authority URL does not name a tenant."

/-- A URL with the secure scheme that names a tenant. -/
structure Authority where
  url : Url
  secure : url.scheme = "https"
  tenanted : url.firstSegment.getD "" ≠ ""
  deriving DecidableEq

namespace Authority

/-- The authority at a URL. The scheme is looked at first. -/
def ofUrl (url : Url) : Except AuthorityProblem Authority :=
  if hs : url.scheme = "https" then
    if ht : url.firstSegment.getD "" ≠ "" then .ok ⟨url, hs, ht⟩
    else .error .missingTenant
  else .error (.notSecure url.scheme)

/-- The authority written in a text. -/
def parse (text : String) : Except AuthorityProblem Authority :=
  match Url.parse text with
  | .ok url => ofUrl url
  | .error p => .error (.invalidUrl p)

/-- The host, which is also the environment of an account. -/
def host (a : Authority) : String := a.url.host

/-- The tenant. -/
def tenant (a : Authority) : String := a.url.firstSegment.getD ""

/-- The URL as text. -/
def text (a : Authority) : String := a.url.text

instance : Wire Authority where
  encode a := Wire.encode a.url
  decode v := do
    let url : Url ← Wire.decode v
    match ofUrl url with
    | .ok a => .ok a
    | .error e => .error (.here (.refused e.message))

end Authority

end SignOn
