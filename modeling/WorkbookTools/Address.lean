import WorkbookTools.Number.IntegerText
import WorkbookTools.Text.Upper

/-!
# Cell addresses

Rows and columns count from one. A column is written in bijective base 26 with the digits A to Z,
a cell as its column followed by its row in decimal. Writing takes all columns, and rows of as many
digits as an integer may have; reading accepts coordinates up to `maxIndex`.

`decode` is lenient: it collects the ASCII letters and the ASCII digits of a text and drops every
other character. `columnOfLabel` is strict and only trims white space.
-/

namespace WorkbookTools

/-- The largest row or column that can be read, the largest unsigned number of 32 bits. -/
def maxIndex : Nat := 4294967295

/-- A cell, by its row and its column. -/
structure CellAddress where
  row : Nat
  column : Nat
  one_le_row : 1 ≤ row
  row_le : row ≤ maxIndex
  one_le_column : 1 ≤ column
  column_le : column ≤ maxIndex
  deriving DecidableEq, Repr

/-- The address of a row and a column, if both are in range. -/
def CellAddress.ofPair? (row column : Nat) : Option CellAddress :=
  if h : (1 ≤ row ∧ row ≤ maxIndex) ∧ 1 ≤ column ∧ column ≤ maxIndex then
    some ⟨row, column, h.1.1, h.1.2, h.2.1, h.2.2⟩
  else none

/-! ## Columns -/

def columnLetter (digit : Nat) : Char := Char.ofNat (65 + digit % 26)

def columnDigit (letter : Char) : Nat := letter.toUpper.toNat - 64

/-- The label of a column. There is no digit zero, so one is subtracted before every division. -/
def columnLabel (column : Nat) : List Char :=
  if column = 0 then []
  else columnLabel ((column - 1) / 26) ++ [columnLetter ((column - 1) % 26)]
termination_by column
decreasing_by omega

/-- Appends a digit to a number, unless the result is above `maxIndex`. -/
def appendDigit? (base number digit : Nat) : Option Nat :=
  let next := number * base + digit
  if maxIndex < next then none else some next

/-- The column of a run of letters, if it is at most `maxIndex`. -/
def columnOfLetters? (letters : List Char) : Option Nat :=
  letters.foldlM (fun column letter => appendDigit? 26 column (columnDigit letter)) 0

/-- The row of a run of ASCII digits, if it is at most `maxIndex`. -/
def rowOfDigits? (digits : List Char) : Option Nat :=
  digits.foldlM (fun row digit => appendDigit? 10 row (digit.toNat - 48)) 0

/-- Why a text is not the label of a column. -/
inductive ColumnLabelError where
  /-- The text is not made of letters. -/
  | malformed (label : String)
  /-- The column is above `maxIndex`. -/
  | outOfRange (label : String)
  deriving DecidableEq, Repr

/-- The column of a label. White space around it is ignored and lower case counts as upper case. -/
def columnOfLabel (label : String) : Except ColumnLabelError Nat :=
  match Text.upperWord? (Text.trim Text.isBlank label.toList) with
  | none | some [] => .error (.malformed label)
  | some letters =>
    match columnOfLetters? letters with
    | none => .error (.outOfRange label)
    | some column => .ok column

/-! ## References -/

/-- The name of a cell: the letters of its column and the digits of its row. -/
def cellName (row column : Nat) : String :=
  String.ofList (columnLabel column ++ Nat.toDigits 10 row)

/-- The reference of a cell, which is its name. A row with too many digits is not written. -/
def reference (row column : Nat) : Except NumeralFault String := do
  let digits ← IntegerText.digits row
  pure (String.ofList (columnLabel column ++ digits))

theorem reference_eq (row column : Nat) :
    reference row column =
      if row < IntegerText.bound then .ok (cellName row column) else .error .tooLong := by
  rw [reference, IntegerText.digits_eq]
  split <;> rfl

/-- The reference of an address, whose row never has too many digits. -/
def CellAddress.reference (a : CellAddress) : String := cellName a.row a.column

/-- The reference of a pair of integers, if both are positive. -/
def encodeAddress (row column : Int) : Except NumeralFault (Option String) :=
  if row < 1 ∨ column < 1 then .ok none else (reference row.toNat column.toNat).map some

/-- The address that the ASCII letters and the ASCII digits of a text spell. -/
def decodeAddress (text : String) : Option CellAddress :=
  let letters := text.toList.filter Char.isAlpha
  let digits := text.toList.filter Char.isDigit
  if letters = [] ∨ digits = [] then none
  else do
    let row ← rowOfDigits? digits
    let column ← columnOfLetters? letters
    CellAddress.ofPair? row column

/-- The reference of a rectangle: the references of two opposite corners around a colon. -/
def encodeRange (firstRow firstColumn lastRow lastColumn : Int) :
    Except NumeralFault (Option String) := do
  let first? ← encodeAddress firstRow firstColumn
  let last? ← encodeAddress lastRow lastColumn
  pure do
    let first ← first?
    let last ← last?
    some (first ++ ":" ++ last)

end WorkbookTools
