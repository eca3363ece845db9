import Reckoner.Text.Basic

/-!
Moments in time and their dates in the calendar, without time zones. Days are counted from the
first of January 1970, with years, months and days in the Gregorian calendar extended to all years;
within the count a year starts in March, so that the leap day is the last one.
-/

namespace Reckoner

/-- A day of the calendar. -/
structure Date where
  year : Int
  month : Nat
  day : Nat
  deriving DecidableEq, Repr

/-- A point in time: seconds since the start of 1970, and nanoseconds after that second. A billion
of them or more stand for an extra second, which is a leap second at the end of a minute; nothing
keeps them from other seconds. -/
structure Moment where
  seconds : Int
  nanos : Nat
  deriving DecidableEq, Repr

namespace Date

/-- Whether a year has a leap day. -/
def isLeapYear (year : Int) : Bool := year % 4 = 0 && (year % 100 ≠ 0 || year % 400 = 0)

/-- The count of days in a month. -/
def daysInMonth (year : Int) (month : Nat) : Nat :=
  if month = 2 then (if isLeapYear year then 29 else 28)
  else if month = 4 || month = 6 || month = 9 || month = 11 then 30
  else 31

/-- The years that dates may have. -/
def isYear (year : Int) : Bool := -262143 ≤ year && year ≤ 262142

/-- Whether there is such a day. -/
def isValid (date : Date) : Bool :=
  isYear date.year && 1 ≤ date.month && date.month ≤ 12 && 1 ≤ date.day
    && date.day ≤ daysInMonth date.year date.month

/-- The count of days from the first of January 1970. -/
def toDays (date : Date) : Int :=
  let year := if date.month ≤ 2 then date.year - 1 else date.year
  let yearOfEra := year % 400
  let dayOfYear := (153 * ((date.month + 9) % 12) + 2) / 5 + date.day - 1
  let dayOfEra := yearOfEra * 365 + yearOfEra / 4 - yearOfEra / 100 + dayOfYear
  year / 400 * 146097 + dayOfEra - 719468

/-- The day that is a count of days away from the first of January 1970. -/
def ofDays (days : Int) : Date :=
  let shifted := days + 719468
  let dayOfEra := (shifted % 146097).toNat
  let yearOfEra := (dayOfEra - dayOfEra / 1460 + dayOfEra / 36524 - dayOfEra / 146096) / 365
  let dayOfYear := dayOfEra - (365 * yearOfEra + yearOfEra / 4 - yearOfEra / 100)
  let marchMonth := (5 * dayOfYear + 2) / 153
  let month := if marchMonth < 10 then marchMonth + 3 else marchMonth - 9
  let year : Int := yearOfEra + shifted / 146097 * 400
  ⟨if month ≤ 2 then year + 1 else year, month, dayOfYear - (153 * marchMonth + 2) / 5 + 1⟩

/-- A year in four digits, with a sign if it needs more of them or is negative. -/
def yearText (year : Int) : Text :=
  if 0 ≤ year && year ≤ 9999 then Text.padded 4 year.toNat
  else (if year < 0 then '-' else '+') :: Text.padded 4 year.natAbs

/-- A date as year, month and day. -/
def text (date : Date) : Text :=
  yearText date.year ++ ['-'] ++ Text.padded 2 date.month ++ ['-'] ++ Text.padded 2 date.day

example : toDays ⟨1970, 1, 1⟩ = 0 := by decide

example : ofDays (toDays ⟨2024, 2, 29⟩) = ⟨2024, 2, 29⟩ := by decide

example : toDays ⟨0, 3, 1⟩ = -719468 := by decide

end Date

namespace Moment

/-- The count of seconds in a day. -/
def daySeconds : Int := 86400

/-- The day of a moment. -/
def date (moment : Moment) : Date := Date.ofDays (moment.seconds / daySeconds)

/-- The second of a day. -/
def secondOfDay (moment : Moment) : Nat := (moment.seconds % daySeconds).toNat

/-- A billion nanoseconds are a second. -/
def secondNanos : Nat := 1000000000

/-- The milliseconds since the start of 1970. -/
def millis (moment : Moment) : Int := moment.seconds * 1000 + (moment.nanos / 1000000 : Nat)

/-- The nanoseconds from one moment to a later one. -/
def nanosSince (later earlier : Moment) : Int :=
  (later.seconds - earlier.seconds) * secondNanos + later.nanos - earlier.nanos

/-- A moment some seconds before another one. -/
def before (moment : Moment) (seconds : Int) : Moment :=
  { moment with seconds := moment.seconds - seconds }

/-- The time of day as hours, minutes and seconds, the second counted one more in an extra second. -/
def clockText (moment : Moment) : Text :=
  let second := moment.secondOfDay
  Text.padded 2 (second / 3600) ++ [':'] ++ Text.padded 2 (second / 60 % 60) ++ [':']
    ++ Text.padded 2 (second % 60 + moment.nanos / secondNanos)

/-- The date and the time of day, with a blank between them. -/
def dateTimeText (moment : Moment) : Text := moment.date.text ++ [' '] ++ moment.clockText

/-- How long ago a moment was: by minutes within the hour, by hours within the day, or its date. -/
def ageText (moment now : Moment) : Text :=
  let seconds := (now.nanosSince moment).tdiv secondNanos
  if seconds < 60 then "Just now".toList
  else if seconds / 60 < 60 then Text.ofInt (seconds / 60) ++ "m ago".toList
  else if seconds / 3600 < 24 then Text.ofInt (seconds / 3600) ++ "h ago".toList
  else moment.date.text

end Moment

end Reckoner
