import Mathlib.Algebra.Order.Ring.Nat
import WorkbookTools.Proofs.Editing.Sheets
import WorkbookTools.Proofs.Range.Read
import WorkbookTools.Range.Write

/-!
# Blocks of values

A block is written cell by cell. What a row of it and what the whole block make of the cells of a
sheet is given by the values that stand for them in the block; cells for which none stands are left
alone, also those to the right of a short row.

* `writeBlock_preserves`: what each single write preserves is preserved by a block.
* `writeBlock_ok`: what a block makes of each cell.
-/

namespace WorkbookTools

/-! ## Values and their cells -/

/-- The value that stands for a cell in a block with the given first row and first column. -/
def valueIn (rows : List (List Scalar)) (top left row column : Nat) : Option Scalar :=
  if top ≤ row ∧ left ≤ column then entry rows (row - top) (column - left) else none

theorem valueIn_cons (values : List Scalar) (rest : List (List Scalar)) (top left i j : Nat) :
    valueIn (values :: rest) top left i j =
      if top = i then if left ≤ j then values[j - left]? else none
      else valueIn rest (top + 1) left i j := by
  rw [valueIn, valueIn]
  by_cases htop : top = i
  · subst htop
    rw [if_pos rfl, Nat.sub_self]
    by_cases hleft : left ≤ j
    · rw [if_pos ⟨Nat.le_refl top, hleft⟩, if_pos hleft]
      rfl
    · rw [if_neg fun h => hleft h.2, if_neg hleft]
  · rw [if_neg htop]
    by_cases hinside : top + 1 ≤ i ∧ left ≤ j
    · have hindex : i - top = i - (top + 1) + 1 := by omega
      rw [if_pos hinside, if_pos ⟨by omega, hinside.2⟩, hindex, entry, entry,
        List.getElem?_cons_succ]
    · rw [if_neg hinside, if_neg (by omega)]

theorem valueIn_above (rows : List (List Scalar)) (i left j : Nat) :
    valueIn rows (i + 1) left i j = none := by
  rw [valueIn, if_neg (by omega)]

/-- The value that a request has for a cell. -/
def WriteRangeRequest.value? (r : WriteRangeRequest) (row column : Nat) : Option Scalar :=
  valueIn r.values.val r.firstRow r.firstColumn row column

theorem exists_of_entry {rows : List (List Scalar)} {i j : Nat} {v : Scalar}
    (h : entry rows i j = some v) : ∃ row ∈ rows, v ∈ row := by
  obtain ⟨row, hrow, hv⟩ := Option.bind_eq_some_iff.mp h
  exact ⟨row, List.mem_of_getElem? hrow, List.mem_of_getElem? hv⟩

/-- A value of a request is one of its values. -/
theorem WriteRangeRequest.exists_of_value? {r : WriteRangeRequest} {row column : Nat} {v : Scalar}
    (h : r.value? row column = some v) : ∃ values ∈ r.values.val, v ∈ values := by
  rw [value?, valueIn] at h
  split at h
  · exact exists_of_entry h
  · cases h

/-- The cell after a value has been written to it, if there is one. -/
def Cell.overwritten (autoFormula : Bool) (c : Cell) : Option Scalar → Cell
  | some v => (c.write autoFormula v.toCellValue).2
  | none => c

namespace Sheet

variable {autoFormula : Bool} {s s' : Sheet} {row column : Nat} {rows : List (List Scalar)}

/-! ## Single writes -/

theorem writeRow_preserves {P : Sheet → Prop} {values : List Scalar}
    (hstep : ∀ v ∈ values, ∀ before column, P before →
      ((before.cellAt row column).write autoFormula v.toCellValue).1 = .ok () →
      P (before.setCell row column ((before.cellAt row column).write autoFormula v.toCellValue).2))
    (h : s.writeRow autoFormula row column values = (.ok (), s')) (hs : P s) : P s' := by
  induction values generalizing s column with
  | nil =>
    cases h
    exact hs
  | cons v rest ih =>
    unfold writeRow at h
    split at h
    · next written hwrite =>
      obtain ⟨hok, rfl⟩ := edit_ok hwrite
      have hnext := hstep v List.mem_cons_self s column hs hok
      exact ih (fun other hother => hstep other (List.mem_cons_of_mem v hother)) h hnext
    · next hfailed => exact absurd h (hfailed s')

/-- What each write of a value preserves is preserved by a block. -/
theorem writeBlock_preserves {P : Sheet → Prop}
    (hstep : ∀ values ∈ rows, ∀ v ∈ values, ∀ before row column, P before →
      ((before.cellAt row column).write autoFormula v.toCellValue).1 = .ok () →
      P (before.setCell row column ((before.cellAt row column).write autoFormula v.toCellValue).2))
    (h : s.writeBlock autoFormula column row rows = (.ok (), s')) (hs : P s) : P s' := by
  induction rows generalizing s row with
  | nil =>
    cases h
    exact hs
  | cons values rest ih =>
    unfold writeBlock at h
    split at h
    · next written hwrite =>
      have hnext : P written :=
        writeRow_preserves (fun v hv before column =>
          hstep values List.mem_cons_self v hv before row column) hwrite hs
      exact ih (fun other hother => hstep other (List.mem_cons_of_mem values hother)) h hnext
    · next hfailed => exact absurd h (hfailed s')

/-! ## What becomes of the cells -/

theorem writeRow_ok {values : List Scalar}
    (h : s.writeRow autoFormula row column values = (.ok (), s')) (i j : Nat) :
    s'.cellAt i j = (s.cellAt i j).overwritten autoFormula
      (if row = i ∧ column ≤ j then values[j - column]? else none) := by
  induction values generalizing s column with
  | nil =>
    cases h
    rw [List.getElem?_nil, ite_self]
    rfl
  | cons v rest ih =>
    unfold writeRow at h
    split at h
    · next written hwrite =>
      obtain ⟨-, rfl⟩ := edit_ok hwrite
      rw [ih h, cellAt_setCell]
      by_cases hhere : row = i ∧ column = j
      · obtain ⟨rfl, rfl⟩ := hhere
        rw [if_pos ⟨rfl, rfl⟩, if_neg (by omega), if_pos ⟨rfl, Nat.le_refl column⟩, Nat.sub_self]
        rfl
      · rw [if_neg hhere]
        by_cases hright : row = i ∧ column + 1 ≤ j
        · have hindex : j - column = j - (column + 1) + 1 := by omega
          rw [if_pos hright, if_pos ⟨hright.1, by omega⟩, hindex, List.getElem?_cons_succ]
        · rw [if_neg hright, if_neg (by omega)]
    · next hfailed => exact absurd h (hfailed s')

/-- A cell is overwritten with the value that stands for it in the block, if there is one. -/
theorem writeBlock_ok (h : s.writeBlock autoFormula column row rows = (.ok (), s')) (i j : Nat) :
    s'.cellAt i j =
      (s.cellAt i j).overwritten autoFormula (valueIn rows row column i j) := by
  induction rows generalizing s row with
  | nil =>
    cases h
    rw [valueIn, entry, List.getElem?_nil, Option.bind_none, ite_self]
    rfl
  | cons values rest ih =>
    unfold writeBlock at h
    split at h
    · next written hwrite =>
      rw [ih h, writeRow_ok hwrite, valueIn_cons]
      by_cases hhere : row = i
      · subst hhere
        rw [valueIn_above, if_pos rfl]
        by_cases hright : column ≤ j
        · rw [if_pos ⟨rfl, hright⟩, if_pos hright]
          rfl
        · rw [if_neg fun h => hright h.2, if_neg hright]
          rfl
      · rw [if_neg fun h => hhere h.1, if_neg hhere]
        rfl
    · next hfailed => exact absurd h (hfailed s')

end Sheet

/-! ## The size of a block -/

namespace WriteRangeRequest

variable (r : WriteRangeRequest)

end WriteRangeRequest

end WorkbookTools
