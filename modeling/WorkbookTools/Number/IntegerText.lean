import WorkbookTools.Number.Decimal
import WorkbookTools.Text.Blank

/-!
# Integers that are given as texts

A text is read twice. The first reading takes the plain notation only, and reports a row of digits
that is too long. A text that is not plain is put into plain notation, without what is allowed
around and between the digits, and read once more.

Integers are written in plain notation, unless they have more digits than are read.
-/

namespace WorkbookTools

/-- What the reading of a text as an integer gives. -/
inductive IntegerReading where
  | value (n : Int)
  /-- The text begins with more digits than are read. -/
  | tooLong
  | malformed
  deriving DecidableEq, Repr

/-- Why an integer is not written. -/
inductive NumeralFault where
  /-- The integer has more digits than are written. -/
  | tooLong
  deriving DecidableEq, Repr

namespace IntegerText

/-- The most digits that are read or written. -/
def maxDigits : Nat := 4300

/-- The least number that has more digits than are read or written. -/
def bound : Nat := Nat.pow 10 maxDigits

/-- The digits that plain notation begins with: a zero alone, or all up to the next other
character. -/
def plainDigits : List Char → List Char
  | '0' :: _ => ['0']
  | s => s.takeWhile Char.isDigit

/-- Reads plain notation: digits without a zero in front, with a minus sign before them for a
negative number. Too many digits are reported whatever follows them. -/
def readPlain (s : List Char) : IntegerReading :=
  let (negative, unsigned) := match s with
    | '-' :: rest => (true, rest)
    | _ => (false, s)
  let digits := plainDigits unsigned
  if maxDigits < digits.length then .tooLong
  else if digits = [] ∨ digits ≠ unsigned then .malformed
  else
    let n : Int := Binary64.digitsValue digits
    .value (if negative then -n else n)

/-- What follows zeros and the underscores between them: a digit or a minus sign ends them, the last
one of them stays before a point and at the end, and nothing else may follow. -/
def afterZeros (last : Char) : List Char → Option (List Char)
  | [] => some [last]
  | c :: rest =>
    if c = '0' ∨ c = '_' then afterZeros c rest
    else if c.isDigit ∨ c = '-' then some (c :: rest)
    else if c = '.' then some (last :: c :: rest)
    else none

/-- The text without the zeros in front of it, if it begins with a digit. -/
def dropLeadingZeros : List Char → Option (List Char)
  | [] => none
  | c :: rest =>
    if c = '0' then afterZeros c rest else if c.isDigit then some (c :: rest) else none

/-- The text before a point that is followed by zeros and nothing else. -/
def dropZeroFraction (s : List Char) : List Char :=
  match s.dropWhile (· ≠ '.') with
  | '.' :: '0' :: zeros => if zeros.all (· = '0') then s.takeWhile (· ≠ '.') else s
  | _ => s

/-- The text without its underscores, if they are single ones between other characters. -/
def dropUnderscores (s : List Char) : List Char :=
  if s.head? = some '_' ∨ s.getLast? = some '_' ∨ ('_', '_') ∈ s.zip s.tail then s
  else s.filter (· ≠ '_')

/-- The plain notation of a number with white space around it, a plus sign, zeros in front, a
fraction of zeros or underscores between the digits. -/
def toPlain (s : List Char) : Option (List Char) := do
  let body ← match Text.trim Text.isSpace s with
    | '+' :: unsigned => if unsigned.head? = some '-' then none else dropLeadingZeros unsigned
    | '-' :: unsigned => (dropLeadingZeros unsigned).map ('-' :: ·)
    | unsigned => dropLeadingZeros unsigned
  pure (dropUnderscores (dropZeroFraction body))

/-- Reads an integer. Only the first reading tells a number that is too long from other texts. -/
def read (s : String) : IntegerReading :=
  match readPlain s.toList with
  | .malformed =>
    match (toPlain s.toList).map readPlain with
    | some (.value n) => .value n
    | _ => .malformed
  | reading => reading

/-! ## Writing -/

/-- The decimal digits of a number, unless there are too many of them. -/
def digits (n : Nat) : Except NumeralFault (List Char) :=
  let digits := Nat.toDigits 10 n
  if maxDigits < digits.length then .error .tooLong else .ok digits

theorem length_toDigits_le_iff {n k : Nat} (h : 0 < k) :
    (Nat.toDigits 10 n).length ≤ k ↔ n < Nat.pow 10 k :=
  Nat.length_toDigits_le_iff (by decide) h

theorem digits_eq (n : Nat) :
    digits n = if n < bound then .ok (Nat.toDigits 10 n) else .error .tooLong := by
  have hlength := length_toDigits_le_iff (n := n) (k := maxDigits) (by decide)
  rw [digits]
  unfold bound
  split
  · next hlong => rw [if_neg (mt hlength.mpr (Nat.not_le_of_lt hlong))]
  · next hshort => rw [if_pos (hlength.mp (Nat.le_of_not_lt hshort))]

/-- The decimal notation of an integer, with a minus sign before the digits of a negative one. -/
def write (n : Int) : Except NumeralFault String := do
  let digits ← digits n.natAbs
  pure (String.ofList (if n < 0 then '-' :: digits else digits))

end IntegerText

end WorkbookTools
