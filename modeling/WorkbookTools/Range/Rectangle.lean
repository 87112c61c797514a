import WorkbookTools.Address

/-!
# Rectangles of cells

A rectangle is given by two opposite corners, the first one above and to the left of the last one.
-/

namespace WorkbookTools

/-- A rectangle with both corners included. -/
structure Rectangle where
  firstRow : Nat
  firstColumn : Nat
  lastRow : Nat
  lastColumn : Nat
  one_le_row : 1 ≤ firstRow
  one_le_column : 1 ≤ firstColumn
  row_le : firstRow ≤ lastRow
  column_le : firstColumn ≤ lastColumn
  deriving Repr

namespace Rectangle

/-- Rectangles are equal if their corners are. -/
instance : DecidableEq Rectangle := fun a b =>
  decidable_of_iff
    (a.firstRow = b.firstRow ∧ a.firstColumn = b.firstColumn ∧ a.lastRow = b.lastRow ∧
      a.lastColumn = b.lastColumn) <| by cases a; cases b; simp

def height (r : Rectangle) : Nat := r.lastRow - r.firstRow + 1

/-- The number of columns. -/
def width (r : Rectangle) : Nat := r.lastColumn - r.firstColumn + 1

/-- The number of cells. -/
def size (r : Rectangle) : Nat := r.height * r.width

/-- The names of the corners around a colon. -/
def name (r : Rectangle) : String :=
  cellName r.firstRow r.firstColumn ++ ":" ++ cellName r.lastRow r.lastColumn

/-- The references of the corners around a colon. -/
def text (r : Rectangle) : Except NumeralFault String := do
  let first ← reference r.firstRow r.firstColumn
  let last ← reference r.lastRow r.lastColumn
  pure (first ++ ":" ++ last)

/-- The text is the name, unless the last row has too many digits. -/
theorem text_eq (r : Rectangle) :
    r.text = if r.lastRow < IntegerText.bound then .ok r.name else .error .tooLong := by
  rw [text, reference_eq, reference_eq]
  by_cases hlast : r.lastRow < IntegerText.bound
  · rw [if_pos hlast, if_pos hlast, if_pos (Nat.lt_of_le_of_lt r.row_le hlast)]
    rfl
  · rw [if_neg hlast, if_neg hlast]
    split <;> rfl

/-- The rectangle with a given first corner, number of rows and number of columns. -/
def ofSize (row column : { n : Nat // 1 ≤ n }) (height width : Nat) (h : 1 ≤ height)
    (w : 1 ≤ width) : Rectangle where
  firstRow := row.val
  firstColumn := column.val
  lastRow := row.val + height - 1
  lastColumn := column.val + width - 1
  one_le_row := row.property
  one_le_column := column.property
  row_le := by omega
  column_le := by omega

end Rectangle

end WorkbookTools
