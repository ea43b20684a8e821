import SignOn.Time.Duration

/-! # Moments

A moment is a local date and time with its distance from universal time. Two moments are compared by
the instant they name, and a duration is added to the local time, the distance staying as it is; a
sum whose year has more than four digits is no moment.

The date is a year and the number of a day in it, in the calendar of today carried back without end.
-/

namespace SignOn

open Json

/-! ### The calendar -/

namespace Calendar

/-- Does the year have a day more? -/
def isLeap (year : Int) : Bool := year % 4 = 0 && (year % 100 ≠ 0 || year % 400 = 0)

/-- How many days a year has. -/
def daysIn (year : Int) : Int := if isLeap year then 366 else 365

/-- The days from the first day of year 1 to the first day of `year`. -/
def daysBefore (year : Int) : Int :=
  let y := year - 1
  365 * y + y / 4 - y / 100 + y / 400

/-- The year of a day and the day's number in it, the days counted from the first day of year 1. -/
def yearAndDay (day : Int) : Int × Int :=
  let era := day / 146097
  let inEra := day % 146097
  let century := min 3 (inEra / 36524)
  let inCentury := inEra - century * 36524
  let four := inCentury / 1461
  let inFour := inCentury % 1461
  let one := min 3 (inFour / 365)
  (400 * era + 100 * century + 4 * four + one + 1, inFour - one * 365 + 1)

end Calendar

/-- Nanoseconds in a day. -/
def nanosPerDay : Int := 86400000000000

/-- A local time, in nanoseconds since year 1 began, and its distance from universal time in
seconds, positive to the east. -/
structure Moment where
  clock : Int
  offset : Int
  bounded : -315569520000000000000 ≤ clock ∧ clock < 315537897600000000000 ∧
    -93599 ≤ offset ∧ offset ≤ 93599

namespace Moment

/-- The instant the moment names, in nanoseconds of universal time. -/
def instant (m : Moment) : Int := m.clock - m.offset * nanosPerSecond

/-- The two moments name one instant. -/
def same (a b : Moment) : Bool := a.instant = b.instant

instance : DecidableEq Moment := fun a b =>
  if h : a.clock = b.clock ∧ a.offset = b.offset then
    isTrue (by cases a; cases b; simp_all)
  else isFalse fun e => h (by rw [e]; exact ⟨rfl, rfl⟩)

/-- The nanoseconds from an earlier moment to this one. -/
def since (later earlier : Moment) : Int := later.instant - earlier.instant

/-- The moment with the given local time and distance, if there is one. -/
def of? (clock offset : Int) : Option Moment :=
  if h : -315569520000000000000 ≤ clock ∧ clock < 315537897600000000000 ∧
      -93599 ≤ offset ∧ offset ≤ 93599 then
    some ⟨clock, offset, h⟩
  else none

/-- The moment a duration later; none if the year would have more than four digits. -/
def add? (m : Moment) (d : Duration) : Option Moment := of? (m.clock + d.nanos) m.offset

/-- The first moment of a year, universal time. -/
def yearStart? (year : Int) : Option Moment := of? (Calendar.daysBefore year * nanosPerDay) 0

/-! ### Fields -/

/-- The fields a moment is written with. -/
structure Fields where
  year : Int
  day : Int
  hour : Int
  minute : Int
  second : Int
  nano : Int
  offsetHour : Int
  offsetMinute : Int
  offsetSecond : Int
  deriving DecidableEq, Repr

/-- The fields of a moment; the parts of the distance have the sign of the whole. -/
def fields (m : Moment) : Fields :=
  let (year, day) := Calendar.yearAndDay (m.clock / nanosPerDay)
  let inDay := m.clock % nanosPerDay
  let seconds := inDay / nanosPerSecond
  { year, day
    hour := seconds / 3600
    minute := seconds % 3600 / 60
    second := seconds % 60
    nano := inDay % nanosPerSecond
    offsetHour := m.offset.tdiv 3600
    offsetMinute := (m.offset.tmod 3600).tdiv 60
    offsetSecond := m.offset.tmod 60 }

/-- `part` with the sign of `larger`, where that has one. -/
def withSignOf (larger part : Int) : Int :=
  if (0 < larger ∧ part < 0) ∨ (larger < 0 ∧ 0 < part) then -part else part

/-- The distance in seconds: a smaller part takes the sign of the larger ones. -/
def offsetOf (f : Fields) : Int :=
  let minute := withSignOf f.offsetHour f.offsetMinute
  let second :=
    withSignOf (if f.offsetHour = 0 then minute else f.offsetHour) f.offsetSecond
  f.offsetHour * 3600 + minute * 60 + second

/-- The name of the first field that is out of range. -/
def firstOutOfRange (f : Fields) : Option String :=
  let tests : List (Bool × String) :=
    [(-9999 ≤ f.year && f.year ≤ 9999, "year"),
      (1 ≤ f.day && f.day ≤ Calendar.daysIn f.year, "ordinal"),
      (0 ≤ f.hour && f.hour < 24, "hour"),
      (0 ≤ f.minute && f.minute < 60, "minute"),
      (0 ≤ f.second && f.second < 60, "second"),
      (0 ≤ f.nano && f.nano < 1000000000, "nanosecond"),
      (-25 ≤ f.offsetHour && f.offsetHour ≤ 25, "offset hour"),
      (-59 ≤ f.offsetMinute && f.offsetMinute ≤ 59, "offset minute"),
      (-59 ≤ f.offsetSecond && f.offsetSecond ≤ 59, "offset second")]
  (tests.find? fun t => !t.1).map Prod.snd

/-- The moment of the fields, or the name of a field that is out of range. -/
def ofFields (f : Fields) : Except String Moment :=
  match firstOutOfRange f with
  | some name => .error name
  | none =>
    let day := Calendar.daysBefore f.year + f.day - 1
    let seconds := f.hour * 3600 + f.minute * 60 + f.second
    match of? (day * nanosPerDay + seconds * nanosPerSecond + f.nano) (offsetOf f) with
    | some m => .ok m
    | none => .error "year"

/-! ### Written form -/

/-- The nine fields in a row. -/
def encode (m : Moment) : Value :=
  let f := m.fields
  .array (([f.year, f.day, f.hour, f.minute, f.second, f.nano, f.offsetHour, f.offsetMinute,
    f.offsetSecond] : List Int).map fun n => .number (.whole n))

/-- Reads the nine fields of a row. -/
def readRow (row : Row) : Except Fault (Moment × Row) := do
  let u8 := Decoder.integer "u8" 0 255
  let i8 := Decoder.integer "i8" (-128) 127
  let (year, row) ← row.next "year" Decoder.integer32
  let (day, row) ← row.next "day of year" (Decoder.integer "u16" 0 65535)
  let (hour, row) ← row.next "hour" u8
  let (minute, row) ← row.next "minute" u8
  let (second, row) ← row.next "second" u8
  let (nano, row) ← row.next "nanosecond" (Decoder.integer "u32" 0 4294967295)
  let (offsetHour, row) ← row.next "offset hours" i8
  let (offsetMinute, row) ← row.next "offset minutes" i8
  let (offsetSecond, row) ← row.next "offset seconds" i8
  match ofFields
      { year, day, hour, minute, second, nano, offsetHour, offsetMinute, offsetSecond } with
  | .ok m => .ok (m, row)
  | .error name =>
    .error (.here (.refused ("invalid " ++ name ++ ", expected an in-range value")))

instance : Wire Moment := ⟨encode, Row.decode "an `OffsetDateTime`" readRow⟩

end Moment

end SignOn
