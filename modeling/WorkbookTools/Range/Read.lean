import WorkbookTools.Range.Rectangle
import WorkbookTools.Workspace

/-!
# Reading ranges

A range is read as rows of scalars, or as the list of its cells that are not empty, each with its
text and its reference. Moments are given as texts, and a formula as the result that the file has of
it. The pass over the rows of a sheet may end before the range does; what it leaves out is filled
with nulls.
-/

namespace WorkbookTools

/-- A value as requests and answers give it. -/
inductive Scalar where
  | null
  | boolean (b : Bool)
  | integer (n : Int)
  | number (x : Binary64)
  | text (s : String)
  deriving DecidableEq, Repr

/-- The written form of a scalar. -/
def Scalar.display : Scalar → String
  | null => "None"
  | boolean b => if b then "TRUE" else "FALSE"
  | integer n => toString n
  | number x => x.text
  | text s => s

def CellValue.shown : CellValue → Scalar
  | empty => .null
  | boolean b => .boolean b
  | integer n => .integer n
  | number x => .number x
  | text s => .text s
  | moment m => .text m.text

/-- What a cell shows, given the result of its formula if it has one. A formula without a result
shows nothing. -/
def Cell.shown (c : Cell) (result? : Option CellValue) : Scalar :=
  if c.kind = .formula then (result?.map CellValue.shown).getD .null else c.value.shown

namespace Sheet

def shown (s : Sheet) (results : FormulaResults) (row column : Nat) : Scalar :=
  match s.cell? row column with
  | some c => c.shown (results.result? row column)
  | none => .null

/-- The last row that has cells, or zero. -/
def lastRow (s : Sheet) : Nat := (s.rows.toList.map (·.1)).max?.getD 0

/-- The rows that a pass over a rectangle yields. A row without cells is filled with nulls, but the
pass ends with the last row that has cells. -/
def passed (s : Sheet) (results : FormulaResults) (r : Rectangle) : List (List Scalar) :=
  (List.range' r.firstRow (min r.lastRow s.lastRow + 1 - r.firstRow)).map fun row =>
    (List.range' r.firstColumn r.width).map fun column => s.shown results row column

end Sheet

/-- The most values that a row can hold. -/
def maxWidth : Nat := 9223372036854775807

/-- Rows filled with nulls up to the width and the height of a rectangle. -/
def Rectangle.padded (r : Rectangle) (rows : List (List Scalar)) : List (List Scalar) :=
  rows.map (fun row => row ++ List.replicate (r.width - row.length) .null) ++
    List.replicate (r.height - rows.length) (List.replicate r.width .null)

/-- A request to read a range. -/
structure ReadRangeRequest where
  path : Path
  sheet : String
  rectangle : Rectangle
  withReferences : Bool
  maxCells : Nat
  deriving DecidableEq, Repr

/-- What was read: rows of values, or the texts of cells with their references. -/
inductive RangeContent where
  | values (rows : List (List Scalar))
  | cells (texts : List String)
  deriving DecidableEq, Repr

/-- The answer to a request to read a range. -/
structure ReadRangeResult where
  sheet : String
  range : String
  content : RangeContent
  deriving DecidableEq, Repr

/-- The value is shown as nothing. -/
def Scalar.isBlank (v : Scalar) : Bool := v = .null || v = .text ""

/-- The values of a row that are not blank, with their texts and references. -/
def labelledRow (row : Nat) (firstColumn : Nat) (values : List Scalar) : List String :=
  -- the reference of the range has been written before, so that of no row in it fails
  (values.zipIdx firstColumn).filterMap fun (v, column) =>
    if v.isBlank then none else some (v.display ++ "@" ++ cellName row column)

/-- The values of rows that are not blank, with their texts and references. -/
def labelled (firstRow firstColumn : Nat) (rows : List (List Scalar)) : List String :=
  (rows.zipIdx firstRow).flatMap fun (values, row) => labelledRow row firstColumn values

namespace Workspace

/-- Reads a range of a workbook. -/
def readRange (policy : Option PathPolicy) (r : ReadRangeRequest) : Action ReadRangeResult := do
  let resolved ← existingWorkbook policy r.path
  let range ← ofExcept .numeral r.rectangle.text
  if r.maxCells < r.rectangle.size then throw (.tooManyCells range r.rectangle.size r.maxCells)
  let book ← openStored resolved
  let stored ← ofExcept .title (book.sheet r.sheet)
  if maxWidth < r.rectangle.width then throw .rowTooWide
  let sheet ← ofExcept (fun fault => .format (.unreadable fault))
    (stored.rowsThrough r.rectangle.lastRow)
  let rows := r.rectangle.padded (sheet.passed stored.results r.rectangle)
  let content :=
    if r.withReferences then
      .cells (labelled r.rectangle.firstRow r.rectangle.firstColumn rows)
    else .values rows
  pure ⟨r.sheet, range, content⟩

end Workspace

end WorkbookTools
