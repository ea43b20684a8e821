import SignOn.Url.Domain.Label
import SignOn.Url.Encode

/-! # Hosts

The host of a special scheme is a domain name, an address of four bytes or an address of eight
groups in brackets. A host that ends in a number is read as an address of four bytes, whatever its
notation, and is written in the usual one; the groups are written with their longest run of zeros
left out. A name is in small letters, and its labels are checked one by one. -/

namespace SignOn.Url

/-- Why a text is no URL. -/
inductive Problem where
  | noScheme
  | emptyHost
  | invalidService
  | invalidIpv4
  | invalidIpv6
  | invalidDomain
  | invalidOpaqueHost
  deriving DecidableEq, Repr, Inhabited

/-- The message of a problem. -/
def Problem.message : Problem → String
  | .noScheme => "relative URL without a base"
  | .emptyHost => "empty host"
  | .invalidService => "invalid port number"
  | .invalidIpv4 => "invalid IPv4 address"
  | .invalidIpv6 => "invalid IPv6 address"
  | .invalidDomain => "invalid international domain name"
  | .invalidOpaqueHost => "invalid domain character"

/-- The parts of a text between the occurrences of a character. -/
def splitAt (sep : Char → Bool) : List Char → List (List Char)
  | [] => [[]]
  | c :: cs =>
    if sep c then [] :: splitAt sep cs
    else
      match splitAt sep cs with
      | [] => [[c]]
      | w :: ws => (c :: w) :: ws

/-- A number in the given base, if every character is a digit of it. -/
def digitsValue? (base : Nat) (cs : List Char) : Option Nat :=
  cs.foldl (fun acc c =>
    match acc, hexValue? c with
    | some n, some d => if d < base then some (n * base + d) else none
    | _, _ => none) (some 0)

/-! ### Four bytes -/

/-- A part of an address: decimal, octal after a zero, hexadecimal after a zero and an x. -/
def ipv4Part? : List Char → Option Nat
  | [] => none
  | '0' :: 'x' :: rest => digitsValue? 16 rest
  | '0' :: 'X' :: rest => digitsValue? 16 rest
  | '0' :: c :: rest => digitsValue? 8 (c :: rest)
  | cs => digitsValue? 10 cs

/-- Does the last part that is not empty read as a number? -/
def endsInNumber (host : List Char) : Bool :=
  let parts := (splitAt (· == '.') host).reverse
  let decides (last : List Char) : Bool :=
    (!last.isEmpty && last.all Char.isDigit) || (ipv4Part? last).isSome
  match parts with
  | [] :: last :: _ => decides last
  | [[]] => false
  | last :: _ => decides last
  | [] => false

/-- The parts put together: the last part fills the bytes that the others leave. -/
def ipv4Value? (parts : List Nat) : Option Nat :=
  match parts.reverse with
  | [] => none
  | last :: others =>
    if 3 < others.length then none
    else if others.any (255 < ·) then none
    else if Nat.pow 256 (4 - others.length) ≤ last then none
    else some (others.reverse.zipIdx.foldl (fun n p => n + p.1 * Nat.pow 256 (3 - p.2)) last)

/-- The address in four decimal numbers. -/
def ipv4Text (n : Nat) : String :=
  ".".intercalate ([n / 16777216, n / 65536 % 256, n / 256 % 256, n % 256].map toString)

/-- The address a host that ends in a number stands for. -/
def readIpv4 (host : List Char) : Except Problem String :=
  let parts := splitAt (· == '.') host
  let parts := if parts.getLast? = some [] then parts.dropLast else parts
  match parts.mapM ipv4Part? >>= ipv4Value? with
  | some n => .ok (ipv4Text n)
  | none => .error .invalidIpv4

/-! ### Eight groups -/

/-- The text before the first double colon and the text after it. -/
def splitDoubleColon : List Char → Option (List Char × List Char)
  | ':' :: ':' :: rest => some ([], rest)
  | c :: rest => (splitDoubleColon rest).map fun p => (c :: p.1, p.2)
  | [] => none

/-- Two groups from four decimal numbers without leading zeros. -/
def embeddedIpv4? (cs : List Char) : Option (List Nat) := do
  let parts := splitAt (· == '.') cs
  let byte (p : List Char) : Option Nat :=
    if p.isEmpty || (p.length ≠ 1 && p.head? = some '0') then none
    else (digitsValue? 10 p).filter (· < 256)
  match ← parts.mapM byte with
  | [a, b, c, d] => some [a * 256 + b, c * 256 + d]
  | _ => none

/-- The groups of a part of an address; the last may be four decimal numbers if `dotted`. -/
def groups? (dotted : Bool) (cs : List Char) : Option (List Nat) :=
  if cs.isEmpty then some []
  else
    let parts := splitAt (· == ':') cs
    let group (p : List Char) : Option Nat :=
      if p.isEmpty || 4 < p.length then none else digitsValue? 16 p
    match parts.reverse with
    | last :: before =>
      if dotted && last.contains '.' then do
        let high ← before.reverse.mapM group
        let low ← embeddedIpv4? last
        some (high ++ low)
      else parts.mapM group
    | [] => none

/-- The eight groups of an address. -/
def ipv6Groups? (cs : List Char) : Option (List Nat) :=
  match splitDoubleColon cs with
  | none => (groups? true cs).filter (·.length = 8)
  | some (left, right) => do
    let l ← groups? false left
    let r ← groups? true right
    if l.length + r.length ≤ 7 then
      some (l ++ List.replicate (8 - l.length - r.length) 0 ++ r)
    else none

/-- The place and the length of the first longest run of zeros. -/
def longestZeros (groups : List Nat) : Nat × Nat :=
  let runs := (List.range groups.length).map fun i =>
    (i, ((groups.drop i).takeWhile (· == 0)).length)
  runs.foldl (fun best run => if best.2 < run.2 then run else best) (0, 0)

/-- A group in lower-case hexadecimal digits. -/
def groupText (n : Nat) : String := String.ofList (Nat.toDigits 16 n)

/-- The address in brackets. -/
def ipv6Text (groups : List Nat) : String :=
  let (place, length) := longestZeros groups
  let join (gs : List Nat) : String := ":".intercalate (gs.map groupText)
  let inner :=
    if 2 ≤ length then join (groups.take place) ++ "::" ++ join (groups.drop (place + length))
    else join groups
  "[" ++ inner ++ "]"

/-- The address between two brackets. -/
def readIpv6 (host : List Char) : Except Problem String :=
  if host.getLast? ≠ some ']' then .error .invalidIpv6
  else
    match ipv6Groups? (host.drop 1).dropLast with
    | some gs => .ok (ipv6Text gs)
    | none => .error .invalidIpv6

/-! ### Names -/

/-- The characters no domain name may hold; names are ASCII here. -/
def forbiddenInDomain (c : Char) : Bool :=
  controlSet c || c ∈ [' ', '#', '%', '/', ':', '<', '>', '?', '@', '[', '\\', ']', '^', '|']

/-- The characters the host of a scheme that is not special may not hold. -/
def forbiddenInOpaque (c : Char) : Bool :=
  c ∈ ['\x00', '\t', '\n', '\r', ' ', '#', '/', ':', '<', '>', '?', '@', '[', '\\', ']', '^', '|']

/-- The host of a special scheme. -/
def readHost (host : List Char) : Except Problem String :=
  if host.head? = some '[' then readIpv6 host
  else
    let name := (decodeChars host).map Char.toLower
    if name.isEmpty then .error .emptyHost
    else if name.any forbiddenInDomain || !Domain.isName (splitAt (· == '.') name) then
      .error .invalidDomain
    else if endsInNumber name then readIpv4 name
    else .ok (String.ofList name)

/-- The host of any other scheme, which may be empty. -/
def readOpaqueHost (host : List Char) : Except Problem String :=
  if host.head? = some '[' then readIpv6 host
  else if host.any forbiddenInOpaque then .error .invalidOpaqueHost
  else .ok (encodeWith controlSet host)

end SignOn.Url
