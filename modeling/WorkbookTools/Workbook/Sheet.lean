import WorkbookTools.IndexMap
import WorkbookTools.Workbook.Cell

/-!
# Sheets

A sheet maps rows and columns to cells. Editing a cell creates it, also when the edit fails; cells
that were only looked at are not created.
-/

namespace WorkbookTools

/-- Why a sheet refuses an edit or cannot be saved. -/
inductive SheetError where
  /-- The row or the column is below one. -/
  | belowOne
  /-- The row is above the last one. -/
  | rowOutOfRange (row : Int)
  /-- The text holds a control character. -/
  | illegalCharacter (text : String)
  /-- The sheet has a cell in a column that cannot be saved. -/
  | unsavableColumn (column : Nat)
  /-- A number is too large to be saved. -/
  | unsavableNumber
  deriving DecidableEq, Repr

/-- A sheet by its rows. -/
structure Sheet where
  rows : IndexMap (IndexMap Cell)
  deriving DecidableEq, Repr

namespace Sheet

/-- The sheet without cells. -/
def empty : Sheet := ⟨IndexMap.empty⟩

def maxRow : Nat := 1048576

def cell? (s : Sheet) (row column : Nat) : Option Cell := (s.rows.get? row).bind (·.get? column)

def setCell (s : Sheet) (row column : Nat) (c : Cell) : Sheet :=
  ⟨s.rows.insert row (((s.rows.get? row).getD IndexMap.empty).insert column c)⟩

/-- Setting a cell changes that cell only. -/
@[simp] theorem cell?_setCell (s : Sheet) (row column i j : Nat) (c : Cell) :
    (s.setCell row column c).cell? i j =
      if row = i ∧ column = j then some c else s.cell? i j := by
  simp only [cell?, setCell, IndexMap.get?_insert]
  by_cases hi : row = i
  · subst hi
    by_cases hj : column = j
    · simp [hj]
    · cases h : s.rows.get? row <;> simp [hj]
  · simp [hi]

def edit (s : Sheet) (row column : Int) (change : Cell → Except String Unit × Cell) :
    Except SheetError Unit × Sheet :=
  if row < 1 ∨ column < 1 then (.error .belowOne, s)
  else if (maxRow : Int) < row then (.error (.rowOutOfRange row), s)
  else
    let (outcome, c) := change ((s.cell? row.toNat column.toNat).getD Cell.empty)
    (outcome.mapError .illegalCharacter, s.setCell row.toNat column.toNat c)

/-- Changes one attribute of one cell. -/
def update (autoFormula : Bool) (s : Sheet) (row column : Int) (u : CellUpdate) :
    Except SheetError Unit × Sheet :=
  s.edit row column fun c => c.update autoFormula u

def write (autoFormula : Bool) (s : Sheet) (row column : Int) (v : CellValue) :
    Except SheetError Unit × Sheet :=
  s.edit row column fun c => c.write autoFormula v

/-- The cells with their rows and columns, row by row. -/
def cells (s : Sheet) : List (Nat × Nat × Cell) :=
  s.rows.toList.flatMap fun (row, columns) =>
    columns.toList.map fun (column, c) => (row, column, c)

end Sheet

end WorkbookTools
