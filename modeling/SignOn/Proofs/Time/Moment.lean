import Mathlib.Algebra.Ring.Int.Defs
import Mathlib.Tactic.ByContra
import SignOn.Proofs.Json.Record
import SignOn.Time.Moment

/-! # Moments in their fields

A moment is written in nine fields and read back from them (`Moment.decode_encode`). For the date it
is to be seen that a year and a day in it name the day they were told from
(`Calendar.daysBefore_yearAndDay`), and that no year is out of range; the time of day and the
distance are taken apart and put together by division, the parts of the distance with the sign of
the whole. -/

namespace SignOn

open Json

namespace Calendar

theorem isLeap_iff {year : Int} :
    isLeap year = true ↔ year % 4 = 0 ∧ (year % 100 ≠ 0 ∨ year % 400 = 0) := by
  simp [isLeap]

/-- The year and the day in it name the day, and the day is one of the year. -/
theorem daysBefore_yearAndDay (day : Int) :
    daysBefore (yearAndDay day).1 + (yearAndDay day).2 - 1 = day ∧ 1 ≤ (yearAndDay day).2 ∧
      (yearAndDay day).2 ≤ daysIn (yearAndDay day).1 := by
  -- the parts of `yearAndDay`, from the era of 400 years down to the day
  obtain ⟨era, hera⟩ : ∃ era, era = day / 146097 := ⟨_, rfl⟩
  obtain ⟨inEra, hinEra⟩ : ∃ inEra, inEra = day % 146097 := ⟨_, rfl⟩
  obtain ⟨century, hcentury⟩ : ∃ century, century = min 3 (inEra / 36524) := ⟨_, rfl⟩
  obtain ⟨inCentury, hinCentury⟩ : ∃ inCentury, inCentury = inEra - century * 36524 := ⟨_, rfl⟩
  obtain ⟨four, hfour⟩ : ∃ four, four = inCentury / 1461 := ⟨_, rfl⟩
  obtain ⟨inFour, hinFour⟩ : ∃ inFour, inFour = inCentury % 1461 := ⟨_, rfl⟩
  obtain ⟨one, hone⟩ : ∃ one, one = min 3 (inFour / 365) := ⟨_, rfl⟩
  have hparts : yearAndDay day =
      (400 * era + 100 * century + 4 * four + one + 1, inFour - one * 365 + 1) := by
    subst hera hinEra hcentury hinCentury hfour hinFour hone
    rfl
  rw [hparts]
  have hcenturies : 0 ≤ century ∧ century ≤ 3 := by omega
  have hinCenturies : 0 ≤ inCentury ∧ inCentury ≤ 36524 := by omega
  have hfours : 0 ≤ four ∧ four ≤ 24 := by omega
  have hones : 0 ≤ one ∧ one ≤ 3 ∧ 0 ≤ inFour - one * 365 ∧ inFour - one * 365 ≤ 365 := by omega
  refine ⟨?_, by omega, ?_⟩
  · have h4 : (400 * era + 100 * century + 4 * four + one + 1 - 1) / 4 =
        100 * era + 25 * century + four := by omega
    have h100 : (400 * era + 100 * century + 4 * four + one + 1 - 1) / 100 = 4 * era + century := by
      omega
    have h400 : (400 * era + 100 * century + 4 * four + one + 1 - 1) / 400 = era := by omega
    simp only [daysBefore]
    rw [h4, h100, h400]
    omega
  · rw [daysIn]
    split
    · omega
    · rename_i hleap
      rw [isLeap_iff] at hleap
      by_contra hlast
      have hlastDay : one = 3 ∧ inFour = 1460 := by omega
      -- a fourth year has its last day unless the century ends there, and the last century has it
      by_cases hend : four = 24
      · have hera' : century = 3 := by omega
        exact hleap ⟨by omega, .inr (by omega)⟩
      · exact hleap ⟨by omega, .inl (by omega)⟩

theorem year_bounds {day : Int} (low : -3652425 ≤ day) (high : day < 3652059) :
    -9999 ≤ (yearAndDay day).1 ∧ (yearAndDay day).1 ≤ 9999 := by
  obtain ⟨hday, hfirst, hlast⟩ := daysBefore_yearAndDay day
  have hdays : daysIn (yearAndDay day).1 ≤ 366 := by
    rw [daysIn]
    split <;> omega
  generalize yearAndDay day = date at *
  obtain ⟨year, inYear⟩ := date
  simp only [daysBefore] at hday hfirst hlast hdays ⊢
  have hyear : -10000 ≤ year ∧ year ≤ 9999 := by omega
  have hne : year ≠ -10000 := by
    rintro rfl
    omega
  omega

end Calendar

namespace Moment

/-- What division toward zero leaves has the sign of what is divided. -/
theorem tmod_bounds (n : Int) {k : Int} (hk : 0 < k) :
    k * n.tdiv k + n.tmod k = n ∧ -k < n.tmod k ∧ n.tmod k < k ∧ (0 ≤ n → 0 ≤ n.tmod k) ∧
      (n ≤ 0 → n.tmod k ≤ 0) := by
  refine ⟨Int.mul_tdiv_add_tmod n k, Int.lt_tmod_of_pos n hk, Int.tmod_lt_of_pos n hk,
    Int.tmod_nonneg k, fun hn => ?_⟩
  have hneg := Int.tmod_nonneg (a := -n) k (by omega)
  rw [Int.neg_tmod] at hneg
  omega

/-- Two parts of which neither is below zero where the other is above. -/
def SignsAgree (larger part : Int) : Prop := ¬ ((0 < larger ∧ part < 0) ∨ (larger < 0 ∧ 0 < part))

theorem offsetOf_of_signsAgree {f : Fields} (hminute : SignsAgree f.offsetHour f.offsetMinute)
    (hsecond : SignsAgree
      (if f.offsetHour = 0 then f.offsetMinute else f.offsetHour) f.offsetSecond) :
    offsetOf f = f.offsetHour * 3600 + f.offsetMinute * 60 + f.offsetSecond := by
  have hsigned : withSignOf f.offsetHour f.offsetMinute = f.offsetMinute := if_neg hminute
  have hsigned' :
      withSignOf (if f.offsetHour = 0 then f.offsetMinute else f.offsetHour) f.offsetSecond =
        f.offsetSecond := if_neg hsecond
  rw [offsetOf, hsigned, hsigned']

/-- The distance in hours, minutes and seconds, each with the sign of the whole. -/
theorem offsetOf_fields (m : Moment) :
    offsetOf m.fields = m.offset ∧ (-25 ≤ m.fields.offsetHour ∧ m.fields.offsetHour ≤ 25) ∧
      (-59 ≤ m.fields.offsetMinute ∧ m.fields.offsetMinute ≤ 59) ∧
      (-59 ≤ m.fields.offsetSecond ∧ m.fields.offsetSecond ≤ 59) := by
  obtain ⟨-, -, hlow, hhigh⟩ := m.bounded
  obtain ⟨hhour, hrest⟩ := tmod_bounds m.offset (k := 3600) (by omega)
  obtain ⟨hminute, hrestMinute⟩ := tmod_bounds (m.offset.tmod 3600) (k := 60) (by omega)
  obtain ⟨hsecond, hrestSecond⟩ := tmod_bounds m.offset (k := 60) (by omega)
  have hfields : m.fields.offsetHour = m.offset.tdiv 3600 ∧
      m.fields.offsetMinute = (m.offset.tmod 3600).tdiv 60 ∧
      m.fields.offsetSecond = m.offset.tmod 60 :=
    ⟨rfl, rfl, rfl⟩
  rw [offsetOf_of_signsAgree (by unfold SignsAgree; omega) (by unfold SignsAgree; split <;> omega)]
  omega

/-- The time of day in hours, minutes, seconds and nanoseconds. -/
theorem inDay_fields (m : Moment) :
    (m.fields.hour * 3600 + m.fields.minute * 60 + m.fields.second) * nanosPerSecond +
      m.fields.nano =
        m.clock % nanosPerDay ∧ (0 ≤ m.fields.hour ∧ m.fields.hour < 24) ∧
      (0 ≤ m.fields.minute ∧ m.fields.minute < 60) ∧ (0 ≤ m.fields.second ∧ m.fields.second < 60) ∧
      (0 ≤ m.fields.nano ∧ m.fields.nano < 1000000000) := by
  simp only [fields, nanosPerSecond, nanosPerDay]
  omega

/-- The date as a year and a day in it. -/
theorem date_fields (m : Moment) :
    Calendar.daysBefore m.fields.year + m.fields.day - 1 = m.clock / nanosPerDay ∧
      (-9999 ≤ m.fields.year ∧ m.fields.year ≤ 9999) ∧
      (1 ≤ m.fields.day ∧ m.fields.day ≤ Calendar.daysIn m.fields.year) := by
  obtain ⟨hlow, hhigh, -⟩ := m.bounded
  obtain ⟨hday, hbounds⟩ := Calendar.daysBefore_yearAndDay (m.clock / nanosPerDay)
  refine ⟨hday, Calendar.year_bounds ?_ ?_, hbounds⟩ <;> simp only [nanosPerDay] <;> omega

theorem firstOutOfRange_fields (m : Moment) : firstOutOfRange m.fields = none := by
  obtain ⟨-, hyear, hday⟩ := m.date_fields
  obtain ⟨-, hhour, hminute, hsecond, hnano⟩ := m.inDay_fields
  obtain ⟨-, hoffsetHour, hoffsetMinute, hoffsetSecond⟩ := m.offsetOf_fields
  simp [firstOutOfRange, hyear, hday, hhour, hminute, hsecond, hnano, hoffsetHour, hoffsetMinute,
    hoffsetSecond]

theorem of?_self (m : Moment) : of? m.clock m.offset = some m := dif_pos m.bounded

/-- **A moment is told by its fields.** -/
theorem ofFields_fields (m : Moment) : ofFields m.fields = .ok m := by
  have hclock : (Calendar.daysBefore m.fields.year + m.fields.day - 1) * nanosPerDay +
      (m.fields.hour * 3600 + m.fields.minute * 60 + m.fields.second) * nanosPerSecond +
        m.fields.nano =
        m.clock := by
    rw [m.date_fields.1, add_assoc, m.inDay_fields.1, mul_comm]
    exact Int.mul_ediv_add_emod m.clock nanosPerDay
  rw [ofFields, firstOutOfRange_fields]
  dsimp only
  rw [hclock, m.offsetOf_fields.1, of?_self]

theorem next_integer {name expected : String} {low high n : Int} (hn : low ≤ n ∧ n ≤ high)
    (taken : Nat) (rest : List Value) :
    Row.next name (Decoder.integer expected low high) ⟨taken, .number (.whole n) :: rest⟩ =
      .ok (n, ⟨taken + 1, rest⟩) := by
  rw [Row.next, Decoder.integer, if_pos hn]
  rfl

/-- **What is written of a moment is read as the moment.** -/
theorem decode_encode (m : Moment) : Wire.decode (Wire.encode m) = .ok m := by
  obtain ⟨-, hyear, hday⟩ := m.date_fields
  obtain ⟨-, hhour, hminute, hsecond, hnano⟩ := m.inDay_fields
  obtain ⟨-, hoffsetHour, hoffsetMinute, hoffsetSecond⟩ := m.offsetOf_fields
  have hdays : Calendar.daysIn m.fields.year ≤ 366 := by
    rw [Calendar.daysIn]
    split <;> omega
  have hrow :
      readRow ⟨0, ([m.fields.year, m.fields.day, m.fields.hour, m.fields.minute, m.fields.second,
        m.fields.nano, m.fields.offsetHour, m.fields.offsetMinute,
        m.fields.offsetSecond] : List Int).map
          fun n => .number (.whole n)⟩ = .ok (m, ⟨9, []⟩) := by
    unfold readRow
    iterate 9 refine bind_eq_ok_iff.mpr ⟨_, next_integer (by omega) _ _, ?_⟩
    have hfields :
        ofFields ⟨m.fields.year, m.fields.day, m.fields.hour, m.fields.minute, m.fields.second,
          m.fields.nano, m.fields.offsetHour, m.fields.offsetMinute,
          m.fields.offsetSecond⟩ = .ok m :=
      m.ofFields_fields
    dsimp only
    rw [hfields]
    rfl
  exact bind_eq_ok_iff.mpr ⟨_, hrow, rfl⟩

end Moment

/-! ### Moments a few seconds apart -/

namespace Sample

/-- A moment so many seconds after the first. -/
def second (n : UInt16) : Moment where
  clock := n.toNat * nanosPerSecond
  offset := 0
  bounded := by
    have hn := n.toNat_lt
    unfold nanosPerSecond
    omega

/-- The moment at which a page is opened. -/
def opened : Moment := second 0

/-- The moment at which its command gets to work. -/
def begun : Moment := second 1

/-- The moment at which the page comes back. -/
def returned : Moment := second 2

/-- The moment at which another page comes back. -/
def returnedLater : Moment := second 3

end Sample

end SignOn
