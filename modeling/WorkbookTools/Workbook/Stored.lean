import WorkbookTools.Workbook.Markup

/-!
# Saving and loading

`Workbook.stored` is what a file holds after a workbook has been saved, as far as it can be read
back. A sheet is written cell by cell, after its extent: a column beyond the last one with a label
of three letters and an integer beyond the range of floating-point numbers cannot be written.

A file may hold the results that the program which wrote it has found for the formulas. Only a look
at values reads them, and saving a workbook drops them all.

Not all that is written can be read. A title, the name of a font or a text with a character that is
foreign to markup is found by the reader, and so is a text that stands where a number is expected.
Sheets are read row by row, so the rows before the first one that fails can be had.
-/

namespace WorkbookTools

def maxSavedColumn : Nat := 18278

/-- Why a part of a file cannot be read. -/
inductive ReadFault where
  /-- The markup has a foreign character. -/
  | malformed (place : Text.Position)
  /-- A value is not the number that its mark asks for. -/
  | number (fault : NumberFault)
  deriving DecidableEq, Repr

/-- Where and why the rows of a sheet cannot be read further. -/
structure SheetFault where
  /-- The last row that is read, or zero. -/
  lastRow : Nat
  cause : ReadFault
  deriving DecidableEq, Repr

/-- The results of formulas that a file holds, by rows and columns. -/
structure FormulaResults where
  rows : IndexMap (IndexMap CellValue)
  deriving DecidableEq, Repr

namespace FormulaResults

/-- No formula has a result. -/
def none : FormulaResults := ⟨IndexMap.empty⟩

def result? (r : FormulaResults) (row column : Nat) : Option CellValue :=
  (r.rows.get? row).bind (·.get? column)

end FormulaResults

/-- A sheet in a file: the rows that can be read, the results of their formulas, and what stops the
reader. -/
structure StoredSheet where
  title : String
  sheet : Sheet
  results : FormulaResults
  fault : Option SheetFault
  deriving DecidableEq, Repr

/-- A workbook in a file. With a fault in a title or in the name of a font nothing can be read. -/
structure StoredWorkbook where
  sheets : List StoredSheet
  fault : Option Text.Position
  deriving DecidableEq, Repr

/-- Why a row cannot be read. -/
inductive RowFault where
  | malformed
  | number (fault : NumberFault)
  deriving DecidableEq, Repr

namespace Cell

/-- The value is an integer beyond the range of floating-point numbers. -/
def isUnsavable (c : Cell) : Bool :=
  match c.value with
  | .integer n => !(Binary64.ofInt n).isFinite
  | _ => false

end Cell

namespace Sheet

/-- The first column in use and the last one. -/
def columnExtent (s : Sheet) : List Nat :=
  let columns := s.cells.map fun (_, column, _) => column
  columns.min?.toList ++ columns.max?.toList

/-- The fault of the first cell of a row that cannot be read. -/
def cellFault? (cells : IndexMap (Except NumberFault Cell)) : Option NumberFault :=
  cells.toList.findSome? fun
    | (_, .error e) => some e
    | (_, .ok _) => none

/-- The cells that are read of a row, or why it cannot be read. -/
def storedRow (columns : IndexMap Cell) : Except RowFault (IndexMap Cell) :=
  let written := columns.filterMap Cell.written?
  if written.toList.any fun (_, c) => c.text.toList.any Markup.isForeign then .error .malformed
  else
    let cells := written.filterMap fun c => some c.read
    match cellFault? cells with
    | some e => .error (.number e)
    | none => .ok (cells.filterMap Except.toOption)

/-- The first row that cannot be read, with the number of the row before it. -/
def firstFault? : Nat → List (Nat × Except RowFault (IndexMap Cell)) → Option (Nat × RowFault)
  | _, [] => none
  | before, (_, .error e) :: _ => some (before, e)
  | _, (row, .ok _) :: rest => firstFault? row rest

/-- The sheet in a file, in a workbook with the given styles. Formulas are written without their
results. -/
def storedReadable (styles : Unit → List CellStyle) (title : String) (s : Sheet) : StoredSheet :=
  let rows := s.rows.filterMap fun columns => some (storedRow columns)
  let kept : Sheet := ⟨rows.filterMap fun
    | .ok cells => if cells.isEmpty then none else some cells
    | .error _ => none⟩
  let fault := (firstFault? 0 rows.toList).bind fun (before, e) =>
    match e with
    | .number e => some ⟨before, .number e⟩
    | .malformed =>
      (Markup.faultIn? (Markup.sheet (styles ()) s)).map fun place => ⟨before, .malformed place⟩
  ⟨title, kept, .none, fault⟩

/-- The sheet that a file holds after saving. -/
def stored (styles : Unit → List CellStyle) (title : String) (s : Sheet) :
    Except SheetError StoredSheet :=
  match s.columnExtent.find? (maxSavedColumn < ·) with
  | some column => .error (.unsavableColumn column)
  | none =>
    if s.cells.any fun (_, _, c) => c.isUnsavable then .error .unsavableNumber
    else .ok (s.storedReadable styles title)

end Sheet

namespace Workbook

/-- The sheets that a file holds, or the error of the first one that cannot be saved. -/
def storedSheets (styles : Unit → List CellStyle) :
    List (String × Sheet) → Except SheetError (List StoredSheet)
  | [] => .ok []
  | (title, s) :: rest => do
    let first ← s.stored styles title
    let others ← storedSheets styles rest
    pure (first :: others)

/-- The place of the first foreign character in a title. -/
def titleFault? (w : Workbook) : Option Text.Position :=
  if w.titles.any fun title => title.toList.any Markup.isForeign then
    Markup.faultIn? (Markup.titles w.titles)
  else none

/-- The place of the first foreign character in the name of a font. -/
def fontFault? (w : Workbook) : Option Text.Position :=
  let isBad := fun (_, _, c) => (c : Cell).style.font.name.toList.any Markup.isForeign
  if w.sheets.any fun (_, s) => s.cells.any isBad then Markup.faultIn? (Markup.fonts w.styles)
  else none

/-- The workbook that a file holds after saving. -/
def stored (w : Workbook) : Except SheetError StoredWorkbook := do
  let sheets ← storedSheets (fun () => w.styles) w.sheets
  pure ⟨sheets, w.titleFault? <|> w.fontFault?⟩

end Workbook

namespace StoredSheet

/-- The rows up to a given one. The reader stops at the first row after it, so a fault that comes
later does not matter. -/
def rowsThrough (s : StoredSheet) (lastRow : Nat) : Except ReadFault Sheet :=
  match s.fault with
  | some fault => if fault.lastRow ≤ lastRow then .error fault.cause else .ok s.sheet
  | none => .ok s.sheet

/-- All rows. -/
def read (s : StoredSheet) : Except ReadFault Sheet :=
  match s.fault with
  | some fault => .error fault.cause
  | none => .ok s.sheet

end StoredSheet

namespace StoredWorkbook

def titles (w : StoredWorkbook) : List String := w.sheets.map (·.title)

def sheet (w : StoredWorkbook) (title : String) : Except TitleError StoredSheet :=
  match w.sheets.find? (·.title = title) with
  | some s => .ok s
  | none => .error (.unknown title w.titles)

/-- Reads sheets in order. -/
def readSheets : List StoredSheet → Except ReadFault (List (String × Sheet))
  | [] => .ok []
  | s :: rest => do
    let first ← s.read
    let others ← readSheets rest
    pure ((s.title, first) :: others)

/-- Reads all sheets. -/
def read (w : StoredWorkbook) : Except ReadFault Workbook := do
  pure ⟨← readSheets w.sheets⟩

end StoredWorkbook

end WorkbookTools
