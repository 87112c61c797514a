import WorkbookTools.Number.Binary64

/-!
# Decimal notation of floating-point numbers

A decimal is a sign, a row of digits and the exponent of its first digit. Two decimals are chosen
for a number: the shortest one that reads back, and the one of sixteen digits, rounded exactly.

The layout is positional as long as the exponent of the first digit lies between -4 and 15, and
scientific otherwise, with a sign and at least two digits in the exponent.
-/

namespace WorkbookTools

/-- A decimal `± d₀.d₁d₂… * 10 ^ exponent`. A decimal in lowest form has no zero at its end. -/
structure Decimal where
  negative : Bool
  digits : List Char
  exponent : Int
  deriving DecidableEq, Repr

namespace Decimal

/-- The power of ten that a quotient below one has to be multiplied with to reach one. -/
def leadingZeros (num den : Nat) : Nat → Nat
  | 0 => 0
  | bound + 1 => if den ≤ num then 0 else leadingZeros (num * 10) den bound + 1

/-- The exponent `k` with `10 ^ k ≤ num / den < 10 ^ (k + 1)`, for a positive quotient. -/
def leadingExponent (num den : Nat) : Int :=
  if den ≤ num then ((Nat.toDigits 10 (num / den)).length : Int) - 1
  else -((leadingZeros num den (den.log2 + 1) : Nat) : Int)

/-- The quotient `num / den` divided by `10 ^ k`, as a quotient. -/
def scaleDown (num den : Nat) (k : Int) : Nat × Nat :=
  if 0 ≤ k then (num, den * Nat.pow 10 k.toNat) else (num * Nat.pow 10 (-k).toNat, den)

/-- The decimal `n * 10 ^ k`, without zeros at its end. -/
def ofScaled (negative : Bool) (n : Nat) (k : Int) : Decimal :=
  let digits := Nat.toDigits 10 n
  { negative
    digits := match (digits.reverse.dropWhile (· = '0')).reverse with
      | [] => ['0']
      | kept => kept
    exponent := if n = 0 then 0 else k + (digits.length : Int) - 1 }

/-- The floating-point number nearest to `n * 10 ^ k`. -/
def nearest (negative : Bool) (n : Nat) (k : Int) : Binary64 :=
  if 0 ≤ k then Binary64.ofQuotient negative (n * Nat.pow 10 k.toNat) 1
  else Binary64.ofQuotient negative n (Nat.pow 10 (-k).toNat)

/-- The decimal of `count` significant digits nearest to a positive quotient. -/
def rounded (negative : Bool) (num den count : Nat) : Decimal :=
  let k := leadingExponent num den - (count : Int) + 1
  let (n, d) := scaleDown num den k
  ofScaled negative (roundDiv n d) k

/-- The multiples of `10 ^ k` next to a quotient that read back as `x`, the nearer one first. -/
def readingBack (x : Binary64) (negative : Bool) (num den : Nat) (k : Int) : List Nat :=
  let (n, d) := scaleDown num den k
  let lower := n / d
  let nearer := roundDiv n d
  let other := if nearer = lower then lower + 1 else lower
  [nearer, other].filter fun candidate => nearest negative candidate k = x

/-- The first decimal with a count of digits from the list that reads back as `x`. -/
def shortestFrom (x : Binary64) (negative : Bool) (num den : Nat) : List Nat → Decimal
  | [] => rounded negative num den 17
  | count :: more =>
    let k := leadingExponent num den - (count : Int) + 1
    match readingBack x negative num den k with
    | n :: _ => ofScaled negative n k
    | [] => shortestFrom x negative num den more

/-- The digits before and after the point, for a decimal written positionally. -/
def positional (d : Decimal) : List Char × List Char :=
  if d.exponent < 0 then
    (['0'], List.replicate (d.exponent.natAbs - 1) '0' ++ d.digits)
  else
    let count := d.exponent.toNat + 1
    (d.digits.take count ++ List.replicate (count - d.digits.length) '0', d.digits.drop count)

/-- Positional notation is used. -/
def isPositional (d : Decimal) : Bool := -4 ≤ d.exponent && d.exponent < 16

/-- The exponent with its sign, in at least two digits. -/
def exponentText (k : Int) : List Char :=
  let digits := Nat.toDigits 10 k.natAbs
  (if k < 0 then '-' else '+') :: (List.replicate (2 - digits.length) '0' ++ digits)

/-- The digits with a point where there is a fraction; `whole` is what stands for no fraction. -/
def pointed (whole : List Char) : List Char × List Char → List Char
  | (before, []) => before ++ whole
  | (before, after) => before ++ '.' :: after

/-- The written form. `whole` follows an integer in positional notation. -/
def text (whole : List Char) (d : Decimal) : List Char :=
  (if d.negative then ['-'] else []) ++
    if d.isPositional then pointed whole d.positional
    else pointed [] (d.digits.take 1, d.digits.drop 1) ++ 'e' :: exponentText d.exponent

end Decimal

namespace Binary64

/-- The decimal that `choose` picks for a finite number; the two zeros are written as zero. -/
def decimalBy (choose : Bool → Nat → Nat → Decimal) (negative : Bool) (mantissa scale : Nat) :
    Decimal :=
  if mantissa = 0 then ⟨negative, ['0'], 0⟩ else choose negative (mantissa * Nat.pow 2 scale) unit

def shortest (negative : Bool) (mantissa scale : Nat) : Decimal :=
  decimalBy (fun sign num den => Decimal.shortestFrom (finite sign mantissa scale) sign num den
    (List.range' 1 17)) negative mantissa scale

def sixteenDigits (negative : Bool) (mantissa scale : Nat) : Decimal :=
  decimalBy (fun sign num den => Decimal.rounded sign num den 16) negative mantissa scale

/-- The text of a number: the fewest digits that read back, an integer with the fraction zero. -/
def text : Binary64 → String
  | finite negative mantissa scale =>
    String.ofList ((shortest negative mantissa scale).text ['.', '0'])
  | infinite negative => if negative then "-inf" else "inf"
  | nan => "nan"

/-- The digits of a text with at most one point, and how many of them follow the point. -/
def pointedDigits? (s : List Char) : Option (List Char × Nat) :=
  let before := s.takeWhile Char.isDigit
  match s.dropWhile Char.isDigit with
  | [] => if before = [] then none else some (before, 0)
  | '.' :: after =>
    if after.all Char.isDigit ∧ before ++ after ≠ [] then some (before ++ after, after.length)
    else none
  | _ => none

/-- A natural number in ASCII digits. -/
def digitsValue (digits : List Char) : Nat :=
  digits.foldl (fun n c => n * 10 + (c.toNat - 48)) 0

/-- The number that is read back after it has been written with sixteen digits. -/
def toSixteenDigits : Binary64 → Binary64
  | finite negative mantissa scale =>
    let d := sixteenDigits negative mantissa scale
    Decimal.nearest negative (digitsValue d.digits) (d.exponent - (d.digits.length : Int) + 1)
  | x => x

/-- An integer in ASCII digits with an optional sign. -/
def signedDigits? (s : List Char) : Option Int :=
  let (negative, digits) := match s with
    | '-' :: rest => (true, rest)
    | '+' :: rest => (false, rest)
    | rest => (false, rest)
  if digits = [] ∨ ¬ digits.all Char.isDigit then none
  else some (if negative then -(digitsValue digits : Int) else digitsValue digits)

/-- The greatest exponent, up to the sign, of a power of ten near a finite number. -/
def maxDecimalExponent : Nat := 400

/-- The number nearest to `digits * 10 ^ k`. A power that is out of range is not computed. -/
def ofDigits (negative : Bool) (digits : List Char) (k : Int) : Binary64 :=
  if digitsValue digits = 0 ∨ k < -((maxDecimalExponent + digits.length : Nat) : Int) then
    finite negative 0 0
  else if (maxDecimalExponent : Int) < k then infinite negative
  else Decimal.nearest negative (digitsValue digits) k

/-- The number nearest to an unsigned decimal, with an optional exponent. -/
def ofUnsigned? (negative : Bool) (s : List Char) : Option Binary64 := do
  let (digits, places) ← pointedDigits? (s.takeWhile fun c => c ≠ 'e' ∧ c ≠ 'E')
  let exponent ← match s.dropWhile fun c => c ≠ 'e' ∧ c ≠ 'E' with
    | [] => some 0
    | _ :: rest => signedDigits? rest
  pure (ofDigits negative digits (exponent - (places : Int)))

/-- The number nearest to a decimal text, or the infinity or NaN that it names. -/
def ofText? (s : String) : Option Binary64 :=
  match s with
  | "nan" => some nan
  | "inf" => some (infinite false)
  | "-inf" => some (infinite true)
  | _ => match s.toList with
    | '-' :: rest => ofUnsigned? true rest
    | rest => ofUnsigned? false rest

end Binary64

end WorkbookTools
