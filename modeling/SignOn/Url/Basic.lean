import SignOn.Url.Host

/-! # URLs

A URL in parts, its text, and the reading of a text. Reading trims the text, lower-cases scheme and
host, resolves the dot segments of a path, drops what says nothing (the usual service number of a
scheme, an empty user), and encodes each part with its set. A scheme is special if it always has a
host; there a backslash is a slash and the slashes before the host may be missing or too many. -/

namespace SignOn

namespace Url

/-- The special schemes and the usual service number of each. -/
def specialSchemes : List (String × Option Nat) :=
  [("http", some 80), ("https", some 443), ("ws", some 80), ("wss", some 443), ("ftp", some 21),
    ("file", none)]

/-- Does the scheme always have a host? -/
def isSpecial (scheme : String) : Bool := (specialSchemes.map Prod.fst).contains scheme

/-- The user, the host and the service number, each as it is written. -/
structure Site where
  user : String
  host : String
  service : Option Nat
  deriving DecidableEq, Repr, Inhabited

/-- A path is a row of segments, or a text without structure. -/
inductive Path where
  | segments (names : List String)
  | flat (text : String)
  deriving DecidableEq, Repr, Inhabited

end Url

/-- A URL in its parts, every one as it is written. -/
structure Url where
  scheme : String
  site : Option Url.Site
  path : Url.Path
  query : Option String
  fragment : Option String
  deriving DecidableEq, Repr, Inhabited

namespace Url

/-! ### Text -/

/-- The text of a user, host and service number. -/
def Site.text (s : Site) : String :=
  "//" ++ (if s.user = "" then "" else s.user ++ "@") ++ s.host
    ++ (match s.service with | some n => ":" ++ toString n | none => "")

/-- The text of a path. -/
def Path.text : Path → String
  | .segments names => String.join (names.map ("/" ++ ·))
  | .flat text => text

/-- The text of a URL. A path without a site that would start like one is kept apart by a dot. -/
def text (u : Url) : String :=
  let apart :=
    match u.site, u.path with
    | none, .segments ("" :: _ :: _) => "/."
    | _, _ => ""
  u.scheme ++ ":" ++ (match u.site with | some s => s.text | none => "") ++ apart ++ u.path.text
    ++ (match u.query with | some q => "?" ++ q | none => "")
    ++ (match u.fragment with | some f => "#" ++ f | none => "")

/-- The host, empty if there is none. -/
def host (u : Url) : String :=
  match u.site with
  | some s => s.host
  | none => ""

/-- The first segment of the path, if the path has segments. -/
def firstSegment (u : Url) : Option String :=
  match u.path with
  | .segments names => names.head?
  | .flat _ => none

/-! ### Reading -/

/-- Does a character of the scheme's own grammar stand here? -/
def isSchemeChar (c : Char) : Bool := c.isAlphanum || c = '+' || c = '-' || c = '.'

/-- The scheme and what follows its colon. -/
def readScheme? (cs : List Char) : Option (String × List Char) :=
  match cs.head?, cs.dropWhile isSchemeChar with
  | some first, ':' :: rest =>
    if first.isAlpha then
      some (String.ofList ((cs.takeWhile isSchemeChar).map Char.toLower), rest)
    else none
  | _, _ => none

/-- The text before the last occurrence of a character, and the text after it. -/
def splitLast (sep : Char) (cs : List Char) : Option (List Char × List Char) :=
  let back := cs.reverse
  match back.dropWhile (· != sep) with
  | [] => none
  | _ :: before => some (before.reverse, (back.takeWhile (· != sep)).reverse)

/-- User name and password, encoded; a colon stands only before a password. -/
def readUser (cs : List Char) : String :=
  let name := cs.takeWhile (· != ':')
  let password := (cs.dropWhile (· != ':')).drop 1
  encodeWith userSet name
    ++ (if password.isEmpty then "" else ":" ++ encodeWith userSet password)

/-- The host and what follows it: a colon ends the host outside brackets. -/
def splitHost : (inBrackets : Bool) → List Char → List Char × List Char
  | _, [] => ([], [])
  | inBrackets, c :: cs =>
    if c = ':' && !inBrackets then ([], c :: cs)
    else
      let inside := if c = '[' then true else if c = ']' then false else inBrackets
      let (host, rest) := splitHost inside cs
      (c :: host, rest)

/-- The service number of the digits after the colon; the usual one of the scheme is dropped. -/
def readService (scheme : String) (digits : List Char) : Except Problem (Option Nat) :=
  match digitsValue? 10 digits with
  | none => .error .invalidService
  | some n =>
    if 65535 < n then .error .invalidService
    else if digits.isEmpty || (specialSchemes.lookup scheme).join = some n then .ok none
    else .ok (some n)

/-- The site of a URL, read from the text between the slashes and the path; `more` says whether
anything follows that text. A backslash ends the service number, and what starts with it is left. -/
def readSite (scheme : String) (cs : List Char) (more : Bool) :
    Except Problem (Site × List Char) := do
  let special := isSpecial scheme
  let (user, place) :=
    match splitLast '@' cs with
    | none => ("", cs)
    | some (user, place) => (readUser user, place)
  if place.isEmpty && more && cs.head? = some '@' && cs.length = 1 then throw .emptyHost
  let (hostChars, rest) := splitHost false place
  if special && hostChars.isEmpty then throw .emptyHost
  let host ← if special then readHost hostChars else readOpaqueHost hostChars
  if host = "" && (!rest.isEmpty || user ≠ "") then throw .emptyHost
  let service ← readService scheme ((rest.drop 1).takeWhile (· != '\\'))
  return ({ user, host, service }, rest.dropWhile (· != '\\'))

/-- A segment that means the same place, and one that means the place above. -/
def isDot (s : String) : Bool := s.toLower ∈ [".", "%2e"]

@[inherit_doc isDot]
def isDoubleDot (s : String) : Bool := s.toLower ∈ ["..", ".%2e", "%2e.", "%2e%2e"]

/-- Is the text a drive, that is, a letter and a colon or a bar? -/
def isDrive : List Char → Bool
  | [letter, mark] => letter.isAlpha && (mark = ':' || mark = '|')
  | _ => false

/-- Does a segment start with a drive that nothing or a backslash follows? -/
def startsWithDrive (s : String) : Bool :=
  isDrive (s.toList.take 2) && ((s.toList.drop 2).head?.getD '\\' = '\\')

/-- The place above: the last segment goes, unless it starts with a drive. -/
def above (names : List String) : List String :=
  if (names.getLast?.map startsWithDrive).getD false then names else names.dropLast

/-- The segments of a path with the dots resolved. A dot at the end leaves an empty segment. -/
def resolveDots : List String → List String → List String
  | done, [] => done
  | done, s :: rest =>
    let trailing := if rest.isEmpty then [""] else []
    if isDoubleDot s then resolveDots (above done ++ trailing) rest
    else if isDot s then resolveDots (done ++ trailing) rest
    else resolveDots (done ++ [s]) rest

/-- The segments of a path, read from the text after its first slash. -/
def readSegments (special : Bool) (cs : List Char) : List String :=
  let slash (c : Char) : Bool := c == '/' || (special && c == '\\')
  resolveDots [] ((splitAt slash cs).map (encodeWith pathSet))

/-- The text before the query and the fragment, and those two. -/
def splitTail (special : Bool) (cs : List Char) :
    List Char × Option String × Option String :=
  let body := cs.takeWhile (· != '#')
  let fragment :=
    match cs.dropWhile (· != '#') with
    | [] => none
    | _ :: rest => some (encodeWith fragmentSet rest)
  let query :=
    match body.dropWhile (· != '?') with
    | [] => none
    | _ :: rest => some (encodeWith (if special then specialQuerySet else querySet) rest)
  (body.takeWhile (· != '?'), query, fragment)

/-- Is the character a slash of a special scheme? -/
def isSlash (c : Char) : Bool := c = '/' || c = '\\'

/-- The site and the path after the slashes of a special scheme; the path is never empty. -/
def readSpecial (scheme : String) (cs : List Char) : Except Problem (Option Site × Path) := do
  let after := cs.dropWhile isSlash
  let place := after.takeWhile fun c => !isSlash c
  let rest := after.dropWhile fun c => !isSlash c
  let (site, _) ← readSite scheme place (!rest.isEmpty)
  return (some site, .segments (readSegments true (rest.drop 1)))

/-- The place of a file on a host, read from the text after the first slash of its path. A path that
starts with a drive has no host and writes the drive with a colon; empty segments at the front of a
path are dropped. -/
def fileAt (host : String) (cs : List Char) : Option Site × Path :=
  let names := readSegments true cs
  let (host, names) :=
    match names with
    | first :: others =>
      if isDrive first.toList then ("", String.ofList (first.toList.take 1 ++ [':']) :: others)
      else (host, names)
    | [] => (host, names)
  let kept := names.dropWhile (· = "")
  (some ⟨"", host, none⟩, .segments (if kept.isEmpty then [""] else kept))

/-- The site and the path of a file. Only after two slashes may a host stand, and no drive is one;
without a host the path starts in front of the slash that follows. -/
def readFile (cs : List Char) : Except Problem (Option Site × Path) := do
  match cs.span isSlash with
  | ([], _) => return fileAt "" cs
  | ([_], rest) => return fileAt "" rest
  | _ =>
    let after := cs.drop 2
    let place := after.takeWhile fun c => !isSlash c
    let rest := after.dropWhile fun c => !isSlash c
    if isDrive place then return fileAt "" after
    let host ← if place.isEmpty then .ok "" else readHost place
    if host = "" || host = "localhost" then return fileAt "" rest
    return fileAt host (rest.drop 1)

/-- The site and the path of a scheme that is not special. -/
def readPlain (scheme : String) (cs : List Char) (more : Bool) :
    Except Problem (Option Site × Path) := do
  match cs with
  | '/' :: '/' :: after =>
    let place := after.takeWhile (· != '/')
    let rest := after.dropWhile (· != '/')
    let (site, left) ← readSite scheme place (more || !rest.isEmpty)
    let path := if left.isEmpty then rest.drop 1 else left ++ rest
    return (some site,
      .segments (if left.isEmpty && rest.isEmpty then [] else readSegments false path))
  | '/' :: rest => return (none, .segments (readSegments false rest))
  | rest => return (none, .flat (encodeWith controlSet rest))

/-- The characters a text is trimmed of at both ends. -/
def isTrimmed (c : Char) : Bool := c.toNat ≤ 32

/-- The text without what surrounds it and without line ends and tabs. -/
def cleaned (s : String) : List Char :=
  let trimmed := ((s.toList.dropWhile isTrimmed).reverse.dropWhile isTrimmed).reverse
  trimmed.filter fun c => !(c == '\t' || c == '\n' || c == '\r')

/-- Reads a URL. -/
def parse (s : String) : Except Problem Url := do
  match readScheme? (cleaned s) with
  | none => throw .noScheme
  | some (scheme, rest) =>
    let special := isSpecial scheme
    let (body, query, fragment) := splitTail special rest
    let more := query.isSome || fragment.isSome
    let (site, path) ←
      if scheme = "file" then readFile body
      else if special then readSpecial scheme body
      else readPlain scheme body more
    return { scheme, site, path, query, fragment }

/-! ### Neighbours -/

/-- The URL whose last segment is replaced by the given ones, without query and fragment. -/
def sibling (u : Url) (names : List String) : Url :=
  match u.path with
  | .segments old =>
    { u with path := .segments (old.dropLast ++ names), query := none, fragment := none }
  | .flat _ => { u with query := none, fragment := none }

/-- The URL with the fields of a form as its query. -/
def withForm (u : Url) (pairs : List (String × String)) : Url :=
  { u with query := some (formText pairs) }

end Url

end SignOn
