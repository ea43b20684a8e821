/-! # Percent encoding

Each part of a URL has a set of characters that may not stand in it as they are; a member of the
set, and every character outside ASCII, is written as its bytes, each as a percent sign and two
hexadecimal digits. The sets grow from one another. -/

namespace SignOn.Url

/-- A hexadecimal digit, upper case. -/
def hexDigit (n : Nat) : Char :=
  if n < 10 then Char.ofNat (48 + n) else Char.ofNat (55 + n)

/-- A byte as a percent sign and two digits. -/
def percentByte (b : UInt8) : List Char :=
  ['%', hexDigit (b.toNat / 16), hexDigit (b.toNat % 16)]

/-! ### The sets -/

/-- Control characters and what is not ASCII. -/
def controlSet (c : Char) : Bool := c.toNat < 32 || 126 < c.toNat

/-- What is encoded after the number sign. -/
def fragmentSet (c : Char) : Bool := controlSet c || c ∈ [' ', '"', '<', '>', '\x60']

/-- What is encoded in a query. -/
def querySet (c : Char) : Bool := controlSet c || c ∈ [' ', '"', '#', '<', '>']

/-- What is encoded in the query of a special scheme. -/
def specialQuerySet (c : Char) : Bool := querySet c || c = '\x27'

/-- What is encoded in a path. -/
def pathSet (c : Char) : Bool := fragmentSet c || c ∈ ['#', '?', '\x7b', '\x7d']

/-- What is encoded in a user name and a password. -/
def userSet (c : Char) : Bool :=
  pathSet c || c ∈ ['/', ':', ';', '=', '@', '[', '\\', ']', '^', '|']

/-- The text with the members of a set encoded. -/
def encodeChars (set : Char → Bool) (cs : List Char) : List Char :=
  cs.flatMap fun c => if set c then (String.utf8EncodeChar c).flatMap percentByte else [c]

/-- The text with the members of a set encoded. -/
def encodeWith (set : Char → Bool) (cs : List Char) : String := String.ofList (encodeChars set cs)

/-! ### Decoding -/

/-- The value of a hexadecimal digit. -/
def hexValue? (c : Char) : Option Nat :=
  if '0' ≤ c && c ≤ '9' then some (c.toNat - 48)
  else if 'a' ≤ c && c ≤ 'f' then some (c.toNat - 87)
  else if 'A' ≤ c && c ≤ 'F' then some (c.toNat - 55)
  else none

/-- The ASCII text with each encoded byte put back; a percent sign that starts no byte stays. -/
def decodeChars : List Char → List Char
  | '%' :: a :: b :: rest =>
    match hexValue? a, hexValue? b with
    | some x, some y => Char.ofNat (x * 16 + y) :: decodeChars rest
    | _, _ => '%' :: decodeChars (a :: b :: rest)
  | c :: rest => c :: decodeChars rest
  | [] => []

/-! ### Form fields -/

/-- One character of a form field: letters, digits and four marks stay, a space is a plus sign. -/
def formChar (c : Char) : List Char :=
  if c.isAlphanum || c ∈ ['*', '-', '.', '_'] then [c]
  else if c = ' ' then ['+']
  else (String.utf8EncodeChar c).flatMap percentByte

/-- The name and value pairs of a form on one line. -/
def formText (pairs : List (String × String)) : String :=
  let field (s : String) : String := String.ofList (s.toList.flatMap formChar)
  "&".intercalate (pairs.map fun p => field p.1 ++ "=" ++ field p.2)

end SignOn.Url
