import WorkbookTools.Range.Read

/-!
# Writing ranges

A block of values is written row by row from its first cell on. Rows may differ in length; null
empties a cell. The call is a load of the workbook followed by a save of it, and only the save
changes a file.
-/

namespace WorkbookTools

/-- A request to write a block of values. -/
structure WriteRangeRequest where
  path : Path
  sheet : String
  firstRow : { n : Nat // 1 ≤ n }
  firstColumn : { n : Nat // 1 ≤ n }
  values : { rows : List (List Scalar) // rows ≠ [] }
  autoFormula : Bool
  deriving DecidableEq, Repr

/-- The answer to a request to write a block of values. -/
structure WriteRangeResult where
  path : Path
  sheet : String
  range : String
  cellCount : Nat
  deriving DecidableEq, Repr

def Scalar.toCellValue : Scalar → CellValue
  | null => .empty
  | boolean b => .boolean b
  | integer n => .integer n
  | number x => .number x
  | text s => .text s

namespace WriteRangeRequest

/-- The number of columns of the block, that of its longest row. -/
def width (r : WriteRangeRequest) : Nat := r.values.val.foldl (fun w row => max w row.length) 0

/-- The number of values in the block. -/
def cellCount (r : WriteRangeRequest) : Nat := r.values.val.foldl (fun n row => n + row.length) 0

def rectangle (r : WriteRangeRequest) (h : 1 ≤ r.width) : Rectangle :=
  Rectangle.ofSize r.firstRow r.firstColumn r.values.val.length r.width
    (List.length_pos_iff.2 r.values.property) h

end WriteRangeRequest

namespace Sheet

/-- Writes a row of values from a column on. -/
def writeRow (autoFormula : Bool) (row : Nat) :
    Nat → List Scalar → Sheet → Except SheetError Unit × Sheet
  | _, [], s => (.ok (), s)
  | column, v :: rest, s =>
    match s.write autoFormula row column v.toCellValue with
    | (.ok (), written) => writeRow autoFormula row (column + 1) rest written
    | failed => failed

/-- Writes rows of values from a cell on. -/
def writeBlock (autoFormula : Bool) (column : Nat) :
    Nat → List (List Scalar) → Sheet → Except SheetError Unit × Sheet
  | _, [], s => (.ok (), s)
  | row, values :: rest, s =>
    match s.writeRow autoFormula row column values with
    | (.ok (), written) => writeBlock autoFormula column (row + 1) rest written
    | failed => failed

end Sheet

namespace Workspace

/-- Loads a workbook and writes a block of values to one of its sheets, in memory. -/
def blockWritten (r : WriteRangeRequest) (resolved : Path) : Action Workbook := do
  let book ← load resolved
  let sheet ← ofExcept .title (book.sheet r.sheet)
  let (outcome, written) :=
    sheet.writeBlock r.autoFormula r.firstColumn.val r.firstRow.val r.values.val
  ofExcept .sheet outcome
  pure (book.setSheet r.sheet written)

/-- Writes a block of values to a sheet and saves the workbook in place. -/
def writeRange (policy : Option PathPolicy) (r : WriteRangeRequest) : Action WriteRangeResult := do
  let resolved ← existingWorkbook policy r.path
  if h : 1 ≤ r.width then
    let book ← blockWritten r resolved
    save resolved book
    -- a block has too few rows for its last one to have a number that is not written
    let range := (r.rectangle h).name
    inform "excelauto.mcp.sheet_ops"
      ("Wrote " ++ toString r.cellCount ++ " cell(s) to " ++ r.sheet ++ "!" ++ range ++ " in " ++
        resolved.text ++ ".")
    pure ⟨resolved, r.sheet, range, r.cellCount⟩
  else throw .noValues

end Workspace

end WorkbookTools
