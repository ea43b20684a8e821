import SignOn.Json.Value

/-! # Reading JSON

The value that a text holds. Blanks may stand between the parts; a string takes its escapes apart,
two of them making one character where it lies beyond the first 65536; and of two members of one
name the last one counts. A whole number that does not fill sixty-four bits, with or without a sign,
is read as a decimal, and so is a zero with a minus sign.

Each reader takes what it needs off the front of the text and gives back the rest. Values lie inside
values, so their reader carries a bound on the depth, for which the length of the text is enough. -/

namespace SignOn.Json.Reader

/-- What is read off the front of a text, and the rest. -/
abbrev Taken (α : Type) := Option (α × List Char)

/-- Is the character a blank between two parts? -/
def isGap (c : Char) : Bool := c = ' ' || c = '\t' || c = '\n' || c = '\r'

/-- The text without the blanks at its front. -/
def skip (cs : List Char) : List Char := cs.dropWhile isGap

/-! ### Strings -/

/-- The value of a hexadecimal digit. -/
def hexDigit? (c : Char) : Option Nat :=
  if '0' ≤ c ∧ c ≤ '9' then some (c.toNat - 48)
  else if 'a' ≤ c ∧ c ≤ 'f' then some (c.toNat - 87)
  else if 'A' ≤ c ∧ c ≤ 'F' then some (c.toNat - 55)
  else none

/-- The number that hexadecimal digits stand for. -/
def hexNumber? (digits : List Char) : Option Nat :=
  digits.foldlM (fun n c => (hexDigit? c).map (n * 16 + ·)) 0

/-- The character that an escape of one letter stands for. -/
def escaped? (letter : Char) : Option Char :=
  [('"', '"'), ('\\', '\\'), ('/', '/'), ('b', '\x08'), ('f', '\x0c'), ('n', '\n'), ('r', '\r'),
    ('t', '\t')].lookup letter

/-- Is the number the first half of a character that takes two escapes? -/
def isHigh (n : Nat) : Bool := 0xd800 ≤ n && n < 0xdc00

/-- Is the number the second half of a character that takes two escapes? -/
def isLow (n : Nat) : Bool := 0xdc00 ≤ n && n < 0xe000

/-- The character of one or two numbers; a half alone is none. -/
def character? : Option Nat → Nat → Option Char
  | none, n => if isHigh n || isLow n then none else some (Char.ofNat n)
  | some high, low =>
    if isLow low then some (Char.ofNat (0x10000 + (high - 0xd800) * 1024 + (low - 0xdc00)))
    else none

/-- The rest of a string; `high` is a first half whose second must follow, and `read` is what has
been read, the last character first. -/
def text (high : Option Nat) (read : List Char) : List Char → Taken String
  | [] => none
  | '\\' :: 'u' :: a :: b :: c :: d :: rest =>
    match hexNumber? [a, b, c, d] with
    | none => none
    | some n =>
      if high.isNone && isHigh n then text (some n) read rest
      else
        match character? high n with
        | some c => text none (c :: read) rest
        | none => none
  | '\\' :: letter :: rest =>
    match high, escaped? letter with
    | none, some c => text none (c :: read) rest
    | _, _ => none
  | c :: rest =>
    if high.isSome || c.toNat < 32 then none
    else if c = '"' then some (String.ofList read.reverse, rest)
    else text none (c :: read) rest

/-! ### Numbers -/

/-- The digits at the front, of which there must be one. -/
def digits (cs : List Char) : Taken (List Char) :=
  match cs.span Char.isDigit with
  | ([], _) => none
  | found => some found

/-- The number that digits stand for. -/
def numberOf (digits : List Char) : Nat := digits.foldl (fun n c => n * 10 + (c.toNat - 48)) 0

/-- The digits after a decimal point, if there is one. -/
def fraction : List Char → Taken (Option (List Char))
  | '.' :: cs => (digits cs).map fun (ds, rest) => (some ds, rest)
  | cs => some (none, cs)

/-- The exponent, if there is one. -/
def exponent : List Char → Taken (Option Int)
  | e :: cs =>
    if e = 'e' || e = 'E' then
      match cs with
      | '-' :: cs => (digits cs).map fun (ds, rest) => (some (-(numberOf ds : Int)), rest)
      | '+' :: cs => (digits cs).map fun (ds, rest) => (some (numberOf ds : Int), rest)
      | cs => (digits cs).map fun (ds, rest) => (some (numberOf ds : Int), rest)
    else some (none, e :: cs)
  | [] => some (none, [])

/-- Does a whole number fill sixty-four bits at most, with or without a sign? -/
def fits (i : Int) : Bool := -9223372036854775808 ≤ i && i < 18446744073709551616

/-- The number of a sign, digits and an exponent; none if it is too large. -/
def numberFrom (isNegative : Bool) (whole : List Char) (fraction : Option (List Char))
    (exponent : Option Int) : Option Number :=
  let values (ds : List Char) : List Nat := ds.map fun c => c.toNat - 48
  let n := numberOf whole
  let i : Int := if isNegative then -n else n
  if fraction.isNone && exponent.isNone && fits i && !(isNegative && n = 0) then some (.whole i)
  else
    (Decimal.ofLiteral? isNegative (values whole) (values (fraction.getD []))
      (exponent.getD 0)).map .real

/-- A number. -/
def number (cs : List Char) : Option (Number × List Char) := do
  let (isNegative, cs) := match cs with
    | '-' :: cs => (true, cs)
    | cs => (false, cs)
  let (whole, cs) ← digits cs
  if whole.length > 1 && whole.head? = some '0' then none
  else
    let (after, cs) ← fraction cs
    let (power, cs) ← exponent cs
    let n ← numberFrom isNegative whole after power
    return (n, cs)

/-! ### Values -/

mutual

/-- A value, at most `n` deep. -/
def value : Nat → List Char → Taken Value
  | 0, _ => none
  | n + 1, cs =>
    match skip cs with
    | 'n' :: 'u' :: 'l' :: 'l' :: rest => some (.null, rest)
    | 't' :: 'r' :: 'u' :: 'e' :: rest => some (.bool true, rest)
    | 'f' :: 'a' :: 'l' :: 's' :: 'e' :: rest => some (.bool false, rest)
    | '"' :: rest => (text none [] rest).map fun (s, rest) => (.string s, rest)
    | '[' :: rest =>
      match skip rest with
      | ']' :: rest => some (.array [], rest)
      | rest => items n [] rest
    | '\x7b' :: rest =>
      match skip rest with
      | '\x7d' :: rest => some (.object [], rest)
      | rest => members n [] rest
    | rest => (number rest).map fun (x, rest) => (.number x, rest)

/-- The rest of an array; `read` holds the items before, the last one first. -/
def items : Nat → List Value → List Char → Taken Value
  | 0, _, _ => none
  | n + 1, read, cs =>
    match value n cs with
    | none => none
    | some (v, rest) =>
      match skip rest with
      | ',' :: rest => items n (v :: read) rest
      | ']' :: rest => some (.array (v :: read).reverse, rest)
      | _ => none

/-- The rest of an object; `read` holds the members before, the last one first. -/
def members : Nat → List (String × Value) → List Char → Taken Value
  | 0, _, _ => none
  | n + 1, read, cs =>
    match skip cs with
    | '"' :: rest =>
      match text none [] rest with
      | none => none
      | some (name, rest) =>
        match skip rest with
        | ':' :: rest =>
          match value n rest with
          | none => none
          | some (v, rest) =>
            match skip rest with
            | ',' :: rest => members n ((name, v) :: read) rest
            | '\x7d' :: rest => some (.ofMembers ((name, v) :: read).reverse, rest)
            | _ => none
        | _ => none
    | _ => none

end

end SignOn.Json.Reader

/-- The value that a text holds; none if the text is not JSON. -/
def SignOn.Json.Value.parse (text : String) : Option SignOn.Json.Value :=
  let cs := text.toList
  match Reader.value (cs.length + 1) cs with
  | some (v, rest) => if (Reader.skip rest).isEmpty then some v else none
  | none => none
