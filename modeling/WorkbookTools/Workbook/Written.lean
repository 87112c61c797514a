import WorkbookTools.Calendar.Serial
import WorkbookTools.Number.AnyScript
import WorkbookTools.Workbook.Cell

/-!
# Written cells

A cell is written as a mark, a content and a style, and read from them again. The mark comes from
the kind of the cell and decides how the content is read, so a text that was written under the mark
of numbers is read as a number, or cannot be read.

Numbers are written with sixteen significant digits and read as integers when the written form has
neither a point nor an exponent. Line ends become line feeds, the empty text becomes an empty cell
with a mark of its own, moments become serial numbers, and numbers in cells with a date format
become moments.
-/

namespace WorkbookTools

/-- The mark of a written cell. -/
inductive WrittenMark where
  /-- No mark, which is read as the mark of numbers. -/
  | absent
  | number
  | boolean
  | error
  | inlineText
  | formulaText
  deriving DecidableEq, Repr

/-- A value as it is written: a decimal, or any text. -/
inductive WrittenValue where
  | decimal (d : Decimal)
  | text (s : String)
  deriving DecidableEq, Repr

/-- What stands in a written cell. -/
inductive WrittenContent where
  | nothing
  /-- A formula, without its first character and without its result. -/
  | formula (s : String)
  | inline (s : String)
  | value (v : WrittenValue)
  deriving DecidableEq, Repr

/-- A cell as it is written. -/
structure WrittenCell where
  mark : WrittenMark
  content : WrittenContent
  style : CellStyle
  deriving DecidableEq, Repr

def CellKind.writtenMark : CellKind → WrittenMark
  | number | date => .number
  | text | inlineText => .inlineText
  | boolean => .boolean
  | formula => .absent
  | error => .error
  | formulaText => .formulaText

/-- The kind of an empty cell that is read under a mark. -/
def WrittenMark.kind : WrittenMark → CellKind
  | absent | number => .number
  | boolean => .boolean
  | error => .error
  | inlineText => .inlineText
  | formulaText => .formulaText

namespace WrittenValue

def written : WrittenValue → String
  | decimal d => String.ofList (d.text [])
  | text s => s

/-- A number. Infinities and NaN have no written form. -/
def ofNumber : Binary64 → WrittenValue
  | .finite negative mantissa scale => .decimal (Binary64.sixteenDigits negative mantissa scale)
  | _ => .text ""

end WrittenValue

namespace CellValue

/-- The written form of a value; moments are given as serial numbers if so desired. -/
def written (asSerial : Bool) : CellValue → WrittenValue
  | empty => .text ""
  | boolean b => .decimal ⟨false, [if b then '1' else '0'], 0⟩
  | integer n => .ofNumber (.ofInt n)
  | number x => .ofNumber x
  | text s => .text s
  | moment m => if asSerial then .ofNumber (Calendar.serial m) else .text m.text

end CellValue

namespace Cell

def writtenContent (c : Cell) : WrittenContent :=
  if c.value = .empty ∨ c.value = .text "" then .nothing
  else
    let v := c.value.written (c.kind = .date)
    match c.kind with
    | .formula => .formula (String.ofList (v.written.toList.drop 1))
    | .text => .inline v.written
    | _ => .value v

/-- The written form of a cell. An empty cell without a style is not written. -/
def written? (c : Cell) : Option WrittenCell :=
  if c.value = .empty ∧ c.style = .default then none
  else some ⟨c.kind.writtenMark, c.writtenContent, c.style⟩

/-- Carriage returns, alone or before a line feed, become line feeds. -/
def unifyLineEnds : List Char → List Char
  | [] => []
  | '\r' :: '\n' :: rest => '\n' :: unifyLineEnds rest
  | '\r' :: rest => '\n' :: unifyLineEnds rest
  | c :: rest => c :: unifyLineEnds rest

def storedText (s : String) : String := String.ofList (unifyLineEnds s.toList)

def numberOfDecimal (d : Decimal) : CellValue :=
  if d.isPositional ∧ d.positional.2 = [] then
    let n := Binary64.digitsValue d.positional.1
    .integer (if d.negative then -n else n)
  else
    .number (Decimal.nearest d.negative (Binary64.digitsValue d.digits)
      (d.exponent - (d.digits.length : Int) + 1))

/-- The number that a text spells: a floating-point number if it has a point or an exponent. -/
def numberOfText (s : String) : Except NumberFault CellValue :=
  if s.toList.any fun c => c = '.' ∨ c = 'e' ∨ c = 'E' then
    (AnyScript.decimal s).map CellValue.number
  else (AnyScript.integer s).map CellValue.integer

def readNumber : WrittenValue → Except NumberFault CellValue
  | .decimal d => .ok (numberOfDecimal d)
  | .text s => numberOfText (storedText s)

/-- The Boolean that is read: any integer other than zero is true. -/
def readBoolean : WrittenValue → Except NumberFault Bool
  | .decimal d =>
    match numberOfDecimal d with
    | .integer n => .ok (n ≠ 0)
    | _ => .error (.notInteger (String.ofList (d.text [])))
  | .text s => (AnyScript.integer (storedText s)).map (· ≠ 0)

/-- The floating-point form of a numeric value. -/
def toBinary64? : CellValue → Option Binary64
  | .integer n => some (.ofInt n)
  | .number x => some x
  | _ => none

/-- Kind and value of a number that is read in a cell with the given number format. -/
def formatted (format : NumberFormat) (v : CellValue) : CellKind × CellValue :=
  match format.isDate, toBinary64? v with
  | true, some x =>
    let moment :=
      if format = .duration then Calendar.durationOfSerial? x else Calendar.momentOfSerial? x
    match moment with
    | some m => (.date, .moment m)
    | none => (.error, .text "#VALUE!")
  | _, _ => (.number, v)

end Cell

namespace WrittenCell

/-- Kind and value that are read from a value under a mark. -/
def readValue (c : WrittenCell) (v : WrittenValue) : Except NumberFault (CellKind × CellValue) :=
  match c.mark with
  | .absent | .number => (Cell.readNumber v).map (Cell.formatted c.style.numberFormat)
  | .boolean => (Cell.readBoolean v).map fun b => (.boolean, .boolean b)
  | .error => .ok (.error, .text (Cell.storedText v.written))
  | .formulaText => .ok (.text, .text (Cell.storedText v.written))
  | .inlineText => .ok (.inlineText, .empty)

def readContent (c : WrittenCell) : Except NumberFault (CellKind × CellValue) :=
  match c.content with
  | .nothing => .ok (c.mark.kind, .empty)
  | .formula s => .ok (.formula, .text ("=" ++ Cell.storedText s))
  | .inline s => .ok (.text, .text (Cell.storedText s))
  | .value v => if v = .text "" then .ok (c.mark.kind, .empty) else c.readValue v

def read (c : WrittenCell) : Except NumberFault Cell := do
  let (kind, value) ← c.readContent
  pure ⟨kind, value, { c.style with font := c.style.font.recorded }⟩

def text (c : WrittenCell) : String :=
  match c.content with
  | .formula s | .inline s | .value (.text s) => s
  | _ => ""

end WrittenCell

end WorkbookTools
