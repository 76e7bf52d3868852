import ToolBindings.Text.Digits

/-!
# Timestamps

Local times with an offset from UTC, and the UTC text of their instants. Days are counted in the
Gregorian calendar extended to all years from day 1, the first of January of year 1. A time whose
UTC date lies outside the years 1 to 9999 has no timestamp.
-/

namespace ToolBindings

/-- A calendar date. -/
structure CalendarDate where
  year : Int
  month : Nat
  day : Nat
deriving DecidableEq

namespace CalendarDate

/-- Leap years have a 29th of February. -/
def isLeap (year : Int) : Bool := year % 4 == 0 && (year % 100 != 0 || year % 400 == 0)

/-- Days of a month. -/
def monthLength (year : Int) (month : Nat) : Nat :=
  match month with
  | 2 => if isLeap year then 29 else 28
  | 4 | 6 | 9 | 11 => 30
  | _ => 31

/-- Days of the months before a month. -/
def daysBeforeMonth (year : Int) (month : Nat) : Nat :=
  (List.range (month - 1)).foldl (fun days m => days + monthLength year (m + 1)) 0

/-- Days of the years before a year. -/
def daysBeforeYear (year : Int) : Int :=
  let y := year - 1
  y * 365 + y / 4 - y / 100 + y / 400

/-- The number of a day, 1 on the first day of year 1. -/
def dayNumber (d : CalendarDate) : Int :=
  daysBeforeYear d.year + daysBeforeMonth d.year d.month + d.day

/-- The year of a day: the last one that begins no later. The estimate is at most one too high. -/
def yearOf (number : Int) : Int :=
  let estimate := (number - 1) * 400 / 146097 + 1
  if daysBeforeYear (estimate + 1) < number then estimate + 1
  else if daysBeforeYear estimate < number then estimate
  else estimate - 1

/-- Month and day within a year, from the months that may still come. -/
def splitMonths (year : Int) (month : Nat) : (months : Nat) → (day : Nat) → Nat × Nat
  | 0, day => (month, day)
  | months + 1, day =>
    if day ≤ monthLength year month then (month, day)
    else splitMonths year (month + 1) months (day - monthLength year month)

/-- The date of a day number. -/
def ofDayNumber (number : Int) : CalendarDate :=
  let year := yearOf number
  let (month, day) := splitMonths year 1 11 (number - daysBeforeYear year).toNat
  ⟨year, month, day⟩

end CalendarDate

/-- An offset from UTC. -/
structure UtcOffset where
  microseconds : Int

/-- A whole number of seconds as an offset. -/
instance : Coe Int UtcOffset := ⟨fun seconds => ⟨seconds * 1000000⟩⟩

/-- A local time: a date, the time of day, and the offset from UTC. -/
structure LocalTime where
  date : CalendarDate
  hour : Nat
  minute : Nat
  second : Nat
  microsecond : Nat
  offset : UtcOffset

namespace LocalTime

/-- Microseconds from the start of day 0 to the time. -/
def moment (t : LocalTime) : Int :=
  (t.date.dayNumber * 86400 + t.hour * 3600 + t.minute * 60 + t.second) * 1000000 +
    t.microsecond - t.offset.microseconds

/-- Seconds from the start of day 0 to the whole second of the time. -/
def instant (t : LocalTime) : Int := t.moment / 1000000

end LocalTime

namespace Timestamp

/-- The text of a year: its digits without padding. -/
def yearText (year : Int) : List Char := Text.decimalInt year

/-- The UTC text of an instant, if its date lies in the years 1 to 9999. -/
def ofInstant? (instant : Int) : Option String :=
  let date := CalendarDate.ofDayNumber (instant / 86400)
  let second := (instant % 86400).toNat
  if 1 ≤ date.year ∧ date.year ≤ 9999 then
    some (String.ofList (yearText date.year ++ '-' :: Text.paddedDecimal 2 date.month ++
      '-' :: Text.paddedDecimal 2 date.day ++ 'T' :: Text.paddedDecimal 2 (second / 3600) ++
      ':' :: Text.paddedDecimal 2 (second / 60 % 60) ++
      ':' :: Text.paddedDecimal 2 (second % 60) ++ ['Z']))
  else none

/-- The UTC text of a local time. -/
def ofLocal? (t : LocalTime) : Option String := ofInstant? t.instant

end Timestamp
end ToolBindings
