import WorkbookTools.Text.Quoted

/-!
# Dates and times

Days are numbered from 30 December 1899, times count microseconds. A moment is a day with a time, a
day, a time of day or a duration. Dates are Gregorian and lie in the years 1 to 9999.
-/

namespace WorkbookTools

def secondMicros : Nat := 1000000

def daySeconds : Nat := 86400

def dayMicros : Nat := 86400000000

/-- A point in time, a time of day or a span of time. -/
inductive Moment where
  | dateTime (day : Int) (micros : Nat)
  | date (day : Int)
  | time (micros : Nat)
  | duration (micros : Int)
  deriving DecidableEq, Repr

namespace Calendar

/-- The number of the day 1 January of the year 1. -/
def firstDay : Int := -693593

/-- The number of the day 31 December of the year 9999. -/
def lastDay : Int := 2958465

/-- The days between 1 March of the year 0 and 30 December 1899. -/
def marchOffset : Int := 693899

/-- The number of a day, given by year, month and day. Years are counted from March, so that the day
that leap years add comes last. -/
def dayOfDate (year month day : Int) : Int :=
  let y := if month ≤ 2 then year - 1 else year
  let m := (month + 9) % 12
  365 * y + y / 4 - y / 100 + y / 400 + (153 * m + 2) / 5 + day - 1 - marchOffset

/-- Year, month and day of a day number. -/
def dateOfDay (number : Int) : Int × Int × Int :=
  let n := number + marchOffset
  let era := n / 146097
  let dayOfEra := n % 146097
  let yearOfEra :=
    (dayOfEra - dayOfEra / 1460 + dayOfEra / 36524 - dayOfEra / 146096) / 365
  let dayOfYear := dayOfEra - (365 * yearOfEra + yearOfEra / 4 - yearOfEra / 100)
  let m := (5 * dayOfYear + 2) / 153
  let day := dayOfYear - (153 * m + 2) / 5 + 1
  let month := if m < 10 then m + 3 else m - 9
  let year := yearOfEra + 400 * era + (if month ≤ 2 then 1 else 0)
  (year, month, day)

/-- A natural number in at least the given count of decimal digits. -/
def digits (width : Nat) (n : Nat) : String := String.ofList (Text.padded 10 width n)

/-- The date in the form year-month-day. -/
def dateText (day : Int) : String :=
  let (y, m, d) := dateOfDay day
  digits 4 y.toNat ++ "-" ++ digits 2 m.toNat ++ "-" ++ digits 2 d.toNat

/-- The hours in the given width, minutes and seconds, and microseconds unless they are zero. -/
def clockText (hourWidth micros : Nat) : String :=
  let seconds := micros / secondMicros
  let rest := micros % secondMicros
  digits hourWidth (seconds / 3600) ++ ":" ++ digits 2 (seconds / 60 % 60) ++ ":" ++
    digits 2 (seconds % 60) ++ if rest = 0 then "" else "." ++ digits 6 rest

/-- A duration in days and a clock time. -/
def durationText (micros : Int) : String :=
  let days := micros / (dayMicros : Int)
  let rest := micros % (dayMicros : Int)
  let clock := clockText 1 rest.toNat
  if days = 0 then clock
  else toString days ++ (if days.natAbs = 1 then " day, " else " days, ") ++ clock

end Calendar

/-- The written form of a moment. -/
def Moment.text : Moment → String
  | dateTime day micros => Calendar.dateText day ++ "T" ++ Calendar.clockText 2 micros
  | date day => Calendar.dateText day
  | time micros => Calendar.clockText 2 micros
  | duration micros => Calendar.durationText micros

end WorkbookTools
