/-!
# Floating-point numbers

A finite binary number of 64 bits is a multiple of the least positive one, 2⁻¹⁰⁷⁴: its mantissa has
at most 53 bits and is shifted to the left by its scale. Every operation computes the exact quotient
of two natural numbers and rounds it once, to the nearest number and of two nearest ones to the one
with the even mantissa.
-/

namespace WorkbookTools

/-- A binary floating-point number of 64 bits. A finite one is `mantissa * 2 ^ scale` units of
`2 ^ -1074`; a scale above zero goes with a mantissa of exactly 53 bits. -/
inductive Binary64 where
  | finite (negative : Bool) (mantissa scale : Nat)
  | infinite (negative : Bool)
  | nan
  deriving DecidableEq, Repr

/-- The quotient of two natural numbers, rounded to the nearest one, ties to the even one. -/
def roundDiv (num den : Nat) : Nat :=
  let q := num / den
  let r := num % den
  if 2 * r < den then q
  else if den < 2 * r then q + 1
  else q + q % 2

namespace Binary64

/-- The denominator of the exact value of a finite number. -/
def unit : Nat := Nat.pow 2 1074

/-- The largest scale of a finite number. -/
def maxScale : Nat := 2045

/-- The number with the given mantissa and scale, or an infinity if the scale is too large. -/
def ofScale (negative : Bool) (mantissa scale : Nat) : Binary64 :=
  if maxScale < scale then infinite negative else finite negative mantissa scale

/-- The number with a rounded mantissa, which may have been rounded up to one bit too many. -/
def carried (negative : Bool) (mantissa scale : Nat) : Binary64 :=
  if mantissa = Nat.pow 2 53 then ofScale negative (Nat.pow 2 52) (scale + 1)
  else ofScale negative mantissa scale

/-- The number nearest to the quotient of two natural numbers. -/
def ofQuotient (negative : Bool) (num den : Nat) : Binary64 :=
  let units := num * unit
  let scale := ((units / den).log2 + 1) - 53
  carried negative (roundDiv units (den * Nat.pow 2 scale)) scale

def zero : Binary64 := finite false 0 0

/-- The number nearest to an integer. -/
def ofInt (n : Int) : Binary64 := ofQuotient (n < 0) n.natAbs 1

/-- The exact value of a finite number, in units of `2 ^ -1074`. -/
def units? : Binary64 → Option Int
  | finite negative mantissa scale =>
    let n : Int := (mantissa * Nat.pow 2 scale : Nat)
    some (if negative then -n else n)
  | _ => none

/-- The number nearest to a quotient of an integer by a natural number. -/
def ofFraction (num : Int) (den : Nat) : Binary64 := ofQuotient (num < 0) num.natAbs den

/-- Neither infinite nor NaN. -/
def isFinite : Binary64 → Bool
  | finite .. => true
  | _ => false

/-- The integer that a finite number is equal to. -/
def toInt? (x : Binary64) : Option Int := do
  let n ← x.units?
  if n % (unit : Int) = 0 then some (n / unit) else none

end Binary64

end WorkbookTools
