/-! # Decimal numbers

A number with a fraction or an exponent is held as the shortest decimal that names the same binary
number of double precision (fifty-three bits and an exponent). Two literals that read as one binary
number are so the same decimal, and a decimal is written back with the fewest digits it takes.

The binary number nearest to a ratio, and the decimals next to a binary number, are found by exact
division; a half goes to the even neighbour. A literal is read in two roundings: the front digits
that fill sixty-four bits are rounded to a binary number, which is then multiplied or divided by the
binary number of a power of ten. -/

namespace SignOn.Json

/-- The number `digits * 10 ^ exponent`, negated if `negative`. -/
structure Decimal where
  negative : Bool
  digits : Nat
  exponent : Int
  deriving DecidableEq, Repr, Inhabited

namespace Decimal

/-- The quotient rounded to the nearest number, a half going to the even neighbour. -/
def roundDiv (num den : Nat) : Nat :=
  let floor := num / den
  let twice := 2 * (num % den)
  if twice < den then floor
  else if den < twice then floor + 1
  else if floor % 2 = 0 then floor else floor + 1

/-- `num / den * base ^ power` as a ratio. -/
def scaled (base num den : Nat) (power : Int) : Nat × Nat :=
  if 0 ≤ power then (num * Nat.pow base power.toNat, den)
  else (num, den * Nat.pow base (-power).toNat)

/-- The mantissa and the exponent of the binary number nearest to a ratio. -/
def nearestBinary (num den : Nat) : Nat × Int :=
  let guess := max ((Nat.log2 num : Int) - Nat.log2 den - 53) (-1074)
  let fits (q : Int) : Bool :=
    let (n, d) := scaled 2 num den (-q)
    n / d < Nat.pow 2 53
  let q := if fits guess then guess else guess + 1
  let (n, d) := scaled 2 num den (-q)
  let m := roundDiv n d
  if m = Nat.pow 2 53 then (Nat.pow 2 52, q + 1) else (m, q)

/-- How many places the first digit of a ratio stands before the decimal point, counted from zero;
negative for a ratio below one. -/
def leadingPlace (num den : Nat) : Int :=
  if den ≤ num then (Nat.toDigits 10 (num / den)).length - 1
  else
    match (List.range 400).find? fun j => den ≤ num * Nat.pow 10 j with
    | some j => -(j : Int)
    | none => 0

/-- The digits without the zeros at their end, and how many zeros those were. -/
def dropZeros : Nat → Nat → Nat × Nat
  | 0, n => (n, 0)
  | fuel + 1, n =>
    if n % 10 = 0 && n ≠ 0 then
      let (m, k) := dropZeros fuel (n / 10)
      (m, k + 1)
    else (n, 0)

/-- The two decimals of `count` digits next to a ratio whose first digit stands at `place`, the
nearer one first. -/
def neighbours (num den : Nat) (place : Int) (count : Nat) : List (Nat × Int) :=
  let power := place - count + 1
  let (n, d) := scaled 10 num den (-power)
  let near := roundDiv n d
  let far := if near = n / d then near + 1 else n / d
  [(near, power), (far, power)]

/-- The shortest decimal, with at most seventeen digits, that rounds to the given binary number, and
of two such the nearer one. -/
def shortest (binary : Nat × Int) : Nat × Int :=
  let (num, den) := scaled 2 binary.1 1 binary.2
  if num = 0 then (0, 0)
  else
    let place := leadingPlace num den
    let candidates := (List.range 17).flatMap fun k => neighbours num den place (k + 1)
    let reads (c : Nat × Int) : Bool :=
      let (n, d) := scaled 10 c.1 1 c.2
      nearestBinary n d == binary
    let (digits, power) := (candidates.find? reads).getD (0, 0)
    let (m, k) := dropZeros 20 digits
    (m, power + k)

/-- The binary number nearest to the product of two. -/
def product (a b : Nat × Int) : Nat × Int :=
  let (m, d) := scaled 2 a.1 1 a.2
  let (n, e) := scaled 2 b.1 1 b.2
  nearestBinary (m * n) (d * e)

/-- The binary number nearest to the quotient of two. -/
def quotient (a b : Nat × Int) : Nat × Int :=
  let (m, d) := scaled 2 a.1 1 a.2
  let (n, e) := scaled 2 b.1 1 b.2
  nearestBinary (m * e) (d * n)

/-- The binary number nearest to a power of ten. -/
def tenPower (k : Nat) : Nat × Int := nearestBinary (Nat.pow 10 k) 1

/-- Does the binary number lie beyond double precision? -/
def isInfinite (a : Nat × Int) : Bool :=
  let (num, den) := scaled 2 a.1 1 a.2
  den * Nat.pow 2 1024 ≤ num

/-- A binary number moved by powers of ten, in steps of at most 308; none if it gets too large. -/
def moved? (a : Nat × Int) (exponent : Int) : Option (Nat × Int) :=
  if exponent < -308 then
    if a.1 = 0 then some a else moved? (quotient a (tenPower 308)) (exponent + 308)
  else if exponent < 0 then some (quotient a (tenPower (-exponent).toNat))
  else if exponent ≤ 308 then
    let b := product a (tenPower exponent.toNat)
    if isInfinite b then none else some b
  else if a.1 = 0 then some a
  else none
termination_by (-exponent).toNat

/-- The front digits that, put behind those of a number, still fill sixty-four bits at most: the
number they make, and the digits that are left. -/
def frontDigits : Nat → List Nat → Nat × List Nat
  | n, [] => (n, [])
  | n, d :: ds =>
    if n * 10 + d < Nat.pow 2 64 then frontDigits (n * 10 + d) ds else (n, d :: ds)

/-- The decimal of a literal with its digits before and after the point. Digits that do not fit
count as zeros before the point, and not at all after it. None if the number is too large. -/
def ofLiteral? (negative : Bool) (whole fraction : List Nat) (exponent : Int) : Option Decimal :=
  let (front, surplus) := frontDigits 0 whole
  let (n, unread) := frontDigits front fraction
  let places : Int := surplus.length - (fraction.length - unread.length)
  (moved? (nearestBinary n 1) (exponent + places)).map fun binary =>
    let (m, e) := shortest binary
    ⟨negative, m, e⟩

/-- The minus sign, if there is one. -/
def sign (d : Decimal) : String := if d.negative then "-" else ""

/-- The digits with a decimal point `point` places after their first; zeros fill the gap. -/
def placed (digits : List Char) (point : Int) : String :=
  if point ≤ 0 then
    "0." ++ String.ofList (List.replicate (-point).toNat '0' ++ digits)
  else
    let whole := digits.take point.toNat
    let fraction := digits.drop point.toNat
    String.ofList (whole ++ List.replicate (point.toNat - whole.length) '0') ++ "."
      ++ (if fraction.isEmpty then "0" else String.ofList fraction)

/-- The decimal without an exponent, always with a decimal point. -/
def positional (d : Decimal) : String :=
  let digits := Nat.toDigits 10 d.digits
  d.sign ++ placed digits (digits.length + d.exponent)

/-- The decimal as a JSON number: an exponent, with its sign, stands where more than sixteen places
would be needed before the point or more than four zeros after it. -/
def literal (d : Decimal) : String :=
  let digits := Nat.toDigits 10 d.digits
  let point := digits.length + d.exponent
  if d.digits = 0 || (-5 < point && point ≤ 16) then d.positional
  else
    let tail := digits.drop 1
    let fraction := if tail.isEmpty then "" else "." ++ String.ofList tail
    d.sign ++ String.ofList (digits.take 1) ++ fraction ++ (if 0 < point then "e+" else "e")
      ++ toString (point - 1)

end Decimal

end SignOn.Json
