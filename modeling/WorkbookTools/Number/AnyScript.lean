import WorkbookTools.Number.IntegerText
import WorkbookTools.Text.Digit

/-!
# Numbers in the digits of any script

A number may be written in the decimal digits of any script, with white space around it, a sign and
single underscores between the digits.
-/

namespace WorkbookTools

/-- Why a text is no number. -/
inductive NumberFault where
  | notInteger (text : String)
  | notDecimal (text : String)
  /-- The text has more digits than are read. -/
  | tooManyDigits (count : Nat)
  deriving DecidableEq, Repr

end WorkbookTools

namespace WorkbookTools.AnyScript

/-- The text without white space around it, its digits replaced by those of ASCII. -/
def normalized (s : String) : List Char :=
  (Text.trim Text.isSpace s.toList).map fun c =>
    match Text.digitValue? c with
    | some d => Char.ofNat (48 + d)
    | none => c

/-- The sign of a number, which is true for minus, and what follows it. -/
def splitSign : List Char → Bool × List Char
  | '-' :: rest => (true, rest)
  | '+' :: rest => (false, rest)
  | rest => (false, rest)

/-- The text without underscores, if each of them stands between two digits. -/
def dropUnderscores? (s : List Char) : Option (List Char) :=
  let isSpot := fun ((before, c), after) => c = '_' → before.isDigit && after.isDigit
  if s.head? = some '_' ∨ s.getLast? = some '_' then none
  else if ((s.zip s.tail).zip (s.drop 2)).all isSpot then some (s.filter (· ≠ '_'))
  else none

def isDigitPart (c : Char) : Bool := c.isDigit || c = '_'

/-- The integer that a text spells. A row of digits that is too long is reported whatever follows
it. -/
def integer (s : String) : Except NumberFault Int :=
  let (negative, unsigned) := splitSign (normalized s)
  match dropUnderscores? (unsigned.takeWhile isDigitPart) with
  | none | some [] => .error (.notInteger s)
  | some digits =>
    if IntegerText.maxDigits < digits.length then .error (.tooManyDigits digits.length)
    else if unsigned.any fun c => !isDigitPart c then .error (.notInteger s)
    else
      let n : Int := Binary64.digitsValue digits
      .ok (if negative then -n else n)

/-- The floating-point number nearest to the decimal that a text spells, with an optional point and
an optional exponent. -/
def decimal (s : String) : Except NumberFault Binary64 :=
  let (negative, unsigned) := splitSign (normalized s)
  match (dropUnderscores? unsigned).bind (Binary64.ofUnsigned? negative) with
  | some x => .ok x
  | none => .error (.notDecimal s)

end WorkbookTools.AnyScript
