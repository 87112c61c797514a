import WorkbookTools.Calendar
import WorkbookTools.Number.Binary64

/-!
# Serial numbers of dates and times

A workbook stores a moment as a number of days: dates count from 30 December 1899, times are
fractions of a day. Serial numbers below 60 are one less than the day numbers, because serial 60
stands for a day that did not exist. Reading a serial rounds to milliseconds.
-/

namespace WorkbookTools.Calendar

/-- Seconds as a quotient of microseconds, each operation rounded to a floating-point number. -/
def clockSeconds (micros : Nat) : Binary64 :=
  let fraction := Binary64.ofFraction (micros % secondMicros : Nat) secondMicros
  match fraction.units? with
  | some units =>
    Binary64.ofFraction ((micros / secondMicros : Nat) * (Binary64.unit : Int) + units)
      Binary64.unit
  | none => fraction

/-- A floating-point number divided by a natural number. -/
def divideBy (x : Binary64) (n : Nat) : Binary64 :=
  match x.units? with
  | some units => Binary64.ofFraction units (Binary64.unit * n)
  | none => x

/-- A floating-point number increased by an integer. -/
def increase (n : Int) (x : Binary64) : Binary64 :=
  match x.units? with
  | some units => Binary64.ofFraction (n * Binary64.unit + units) Binary64.unit
  | none => x

def serialOfClock (micros : Nat) : Binary64 := divideBy (clockSeconds micros) daySeconds

def serialOfDay (day : Int) (micros : Nat) : Binary64 :=
  increase (if 0 < day ∧ day ≤ 60 then day - 1 else day) (serialOfClock micros)

def serial : Moment → Binary64
  | .dateTime day micros => serialOfDay day micros
  | .date day => serialOfDay day 0
  | .time micros => serialOfClock micros
  | .duration micros => divideBy (Binary64.ofFraction micros secondMicros) daySeconds

/-- An integer quotient rounded to the nearest integer, ties to the even one. -/
def roundDivInt (num : Int) (den : Nat) : Int :=
  if num < 0 then -(roundDiv num.natAbs den : Int) else roundDiv num.natAbs den

/-- A floating-point number multiplied by a natural number. -/
def multiply (x : Binary64) (n : Nat) : Binary64 :=
  match x.units? with
  | some units => Binary64.ofFraction (units * n) Binary64.unit
  | none => x

/-- The nearest integer, ties to the even one. -/
def roundToInt? (x : Binary64) : Option Int := x.units?.map (roundDivInt · Binary64.unit)

def maxDurationDays : Int := 999999999

/-- The microseconds of a number of units of time, each of the given length. The fraction of a unit
is multiplied and rounded on its own. -/
def spanMicros? (x : Binary64) (unitMicros : Nat) : Option Int := do
  let units ← x.units?
  let whole := Int.tdiv units Binary64.unit
  let fraction := Binary64.ofFraction (units - whole * Binary64.unit) Binary64.unit
  pure (whole * unitMicros + (← roundToInt? (multiply fraction unitMicros)))

def isDuration (micros : Int) : Bool :=
  let days := micros / (dayMicros : Int)
  days ≤ maxDurationDays && -maxDurationDays ≤ days

/-- A duration with a fraction of a second has that fraction rounded to milliseconds. Its whole
seconds are those of the floating-point number of seconds. -/
def roundDuration (micros : Int) : Option Int := do
  let rest := micros % (secondMicros : Int)
  if rest = 0 then pure micros
  else
    let units ← (Binary64.ofFraction micros secondMicros).units?
    pure (units / (Binary64.unit : Int) * secondMicros + roundDivInt rest 1000 * 1000)

/-- The duration of a number of days. -/
def durationOfSerial? (x : Binary64) : Option Moment := do
  let exact ← spanMicros? x dayMicros
  let micros ← if isDuration exact then roundDuration exact else none
  if isDuration micros then pure (.duration micros) else none

/-- The day or the time of day of a serial number. The day itself must lie in the calendar, and so
must the one that rounding may lead to. -/
def momentOfSerial? (x : Binary64) : Option Moment := do
  let units ← x.units?
  let day := units / (Binary64.unit : Int)
  let fraction := Binary64.ofFraction (units % (Binary64.unit : Int)) Binary64.unit
  let millis ← roundToInt? (multiply (multiply fraction daySeconds) 1000)
  let micros := millis * 1000
  if day = 0 ∧ micros < dayMicros then some (.time micros.toNat)
  else
    let base := if 0 < units ∧ units < 60 * (Binary64.unit : Int) then day + 1 else day
    let number := base + micros / (dayMicros : Int)
    if base < firstDay ∨ lastDay < number then none
    else some (.dateTime number (micros % (dayMicros : Int)).toNat)

end WorkbookTools.Calendar
