/-! # Punycode

A label with characters outside ASCII is written in ASCII: first the characters of ASCII, then,
after a hyphen, a row of numbers. Each number says how far to go on, counting through the places of
the text and then through the characters, to the next place where a character is put in. A number
has digits of base 36, the last of which is known by its size; the sizes depend on the numbers
before. -/

namespace SignOn.Url.Domain

/-- The value of a digit: the letters come before the ten figures. -/
def digit? (c : Char) : Option Nat :=
  if 'a' ≤ c && c ≤ 'z' then some (c.toNat - 97)
  else if '0' ≤ c && c ≤ '9' then some (c.toNat - 22)
  else none

/-- The size from which on a digit at the given place is not the last one. -/
def threshold (bias place : Nat) : Nat := min 26 (max 1 (place - bias))

/-- A number divided by 35 until it is at most 455, and 36 for each division. -/
def shrink (n steps : Nat) : Nat × Nat :=
  if 455 < n then shrink (n / 35) (steps + 36) else (n, steps)
termination_by n
decreasing_by exact Nat.div_lt_self (by omega) (by omega)

/-- The bias after a number; `count` is the length of the text, the new character included. -/
def nextBias (n count : Nat) (isFirst : Bool) : Nat :=
  let n := if isFirst then n / 700 else n / 2
  let (n, steps) := shrink (n + n / count) 0
  steps + 36 * n / (n + 38)

/-- How far a label is read. `text` is what it stands for so far; the next character is put in at
`place` or behind it and is `code` or a later one; `number`, `weight` and `digitPlace` belong to the
number at hand, and `isOpen` says that its last digit is still to come. -/
structure Punycode where
  text : List Char
  code : Nat
  place : Nat
  bias : Nat
  number : Nat
  weight : Nat
  digitPlace : Nat
  isOpen : Bool
  deriving DecidableEq, Repr, Inhabited

namespace Punycode

/-- The start, with the characters of ASCII. -/
def start (basic : List Char) : Punycode := ⟨basic, 128, 0, 72, 0, 1, 36, false⟩

/-- The character of a number is put in. -/
def insert? (p : Punycode) (number : Nat) : Option Punycode :=
  let count := p.text.length + 1
  let code := p.code + (p.place + number) / count
  let place := (p.place + number) % count
  if code.isValidChar then
    some { p with
      text := p.text.insertIdx place (Char.ofNat code), code, place := place + 1,
      bias := nextBias number count (p.place = 0), number := 0, weight := 1, digitPlace := 36,
      isOpen := false }
  else none

/-- One digit is read. Numbers stay below the thirty-second power of two. -/
def next? (p : Punycode) (c : Char) : Option Punycode := do
  let digit ← digit? c
  let number := p.number + digit * p.weight
  let bound := threshold p.bias p.digitPlace
  if Nat.pow 2 32 ≤ p.place + number then none
  else if digit < bound then p.insert? number
  else if Nat.pow 2 32 ≤ p.weight * (36 - bound) then none
  else
    some { p with
      number, weight := p.weight * (36 - bound), digitPlace := p.digitPlace + 36, isOpen := true }

/-- The text that a label stands for. The last hyphen divides it, unless it is in front. -/
def decode? (cs : List Char) : Option (List Char) := do
  let back := cs.reverse
  let basic := ((back.dropWhile (· ≠ '-')).drop 1).reverse
  let digits := if basic.isEmpty then cs else (back.takeWhile (· ≠ '-')).reverse
  let p ← digits.foldlM next? (start basic)
  if p.isOpen then none else some p.text

end Punycode

end SignOn.Url.Domain
