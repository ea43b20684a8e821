import SignOn.Json.Row

/-! # Durations

A signed length of time, counted in nanoseconds. Whole seconds fill a signed number of sixty-four
bits, so a duration lies between two bounds that are part of the type. -/

namespace SignOn

open Json

/-- Nanoseconds in a second. -/
def nanosPerSecond : Int := 1000000000

/-- A signed length of time. -/
structure Duration where
  nanos : Int
  bounded : -9223372036854775808999999999 ≤ nanos ∧ nanos ≤ 9223372036854775807999999999 := by omega
  deriving DecidableEq

namespace Duration

instance : Inhabited Duration := ⟨{ nanos := 0 }⟩

/-- The given number of nanoseconds, if it is in bounds. -/
def ofNanos? (nanos : Int) : Option Duration :=
  if h : -9223372036854775808999999999 ≤ nanos ∧ nanos ≤ 9223372036854775807999999999 then
    some ⟨nanos, h⟩
  else none

/-- A whole number of seconds that is known to fit. -/
def ofSeconds (seconds : Nat) (h : seconds < 4294967296 := by decide) : Duration :=
  ⟨seconds * 1000000000, by omega⟩

/-- A whole number of minutes that is known to fit. -/
def ofMinutes (minutes : Nat) (h : minutes < 4294967296 := by decide) : Duration :=
  ⟨minutes * 60000000000, by omega⟩

/-- Longer than no time at all. -/
def isPositive (d : Duration) : Bool := 0 < d.nanos

/-- The longest duration. -/
def longest : Duration := { nanos := 9223372036854775807999999999 }

/-- The length without its sign, in nanoseconds. -/
def magnitude (d : Duration) : Nat := d.nanos.natAbs

/-! ### Text -/

/-- The units of a written duration, from days down to nanoseconds. -/
def units : List (Nat × String) :=
  [(86400000000000, "d"), (3600000000000, "h"), (60000000000, "m"), (1000000000, "s"),
    (1000000, "ms"), (1000, "µs"), (1, "ns")]

/-- The parts of a length that are not zero, each with its unit. -/
def parts : List (Nat × String) → Nat → List String
  | [], _ => []
  | (size, unit) :: rest, n =>
    if n / size = 0 then parts rest n
    else (toString (n / size) ++ unit) :: parts rest (n % size)

/-- A duration in words of the units, the sign in front; no time at all is written in seconds. -/
def text (d : Duration) : String :=
  if d.nanos = 0 then "0s"
  else (if d.nanos < 0 then "-" else "") ++ String.join (parts units d.magnitude)

/-- The whole seconds, with the sign of the duration. -/
def wholeSeconds (d : Duration) : Int := d.nanos.tdiv nanosPerSecond

/-- The nanoseconds beside the whole seconds, with the sign of the duration. -/
def restNanos (d : Duration) : Int := d.nanos.tmod nanosPerSecond

/-- The duration with the names of its parts, for messages that show it as data. -/
def shown (d : Duration) : String :=
  "SignedDuration \x7b seconds: " ++ toString d.wholeSeconds ++ ", nanoseconds: "
    ++ toString d.restNanos ++ " \x7d"

/-! ### Written form -/

/-- Seconds and nanoseconds, both with the sign of the whole. -/
def encode (d : Duration) : Value :=
  .array [.number (.whole d.wholeSeconds), .number (.whole d.restNanos)]

/-- Reads the nanoseconds of a row, which stay below a second. -/
def decodeNanos : Decoder Int := fun v => do
  let n ← Decoder.integer32 v
  if -1000000000 < n ∧ n < 1000000000 then .ok n
  else .error (.here (.wrongValue .someInteger "an integer in the valid range"))

/-- Reads the two numbers of a row. -/
def readRow (row : Row) : Except Fault (Duration × Row) := do
  let (seconds, row) ← row.next "seconds"
    (Decoder.integer "i64" (-9223372036854775808) 9223372036854775807)
  let (nanos, row) ← row.next "nanoseconds" decodeNanos
  match ofNanos? (seconds * nanosPerSecond + nanos) with
  | some d => .ok (d, row)
  | none => .error (.here (.refused "duration out of range"))

instance : Wire Duration := ⟨encode, Row.decode "a `SignedDuration`" readRow⟩

end Duration

end SignOn
