import Mathlib.Data.List.Basic
import WorkbookTools.Workbook

/-!
# Sheets by their titles

The first sheet with a title stands in the list of sheets at the index of the title. Replacing it
changes no other sheet, and no title.

* `findSheet_eq_some_iff`: where the sheet with a title is.
* `getElem?_replaceSheet`: what becomes of each sheet.
-/

namespace WorkbookTools.Workbook

variable {title : String} {s old : Sheet} {sheets : List (String × Sheet)}

theorem findSheet_eq_some_iff :
    findSheet title sheets = some s ↔
      sheets[(sheets.map (·.1)).idxOf title]? = some (title, s) := by
  induction sheets with
  | nil => exact ⟨nofun, nofun⟩
  | cons first rest ih =>
    obtain ⟨other, found⟩ := first
    rw [findSheet]
    by_cases htitle : other = title
    · subst htitle
      rw [if_pos rfl, List.map_cons, List.idxOf_cons_self, List.getElem?_cons_zero]
      simp
    · rw [if_neg htitle, ih, List.map_cons, List.idxOf_cons_ne _ htitle, List.getElem?_cons_succ]

theorem getElem?_replaceSheet (h : findSheet title sheets = some old) (k : Nat) :
    (replaceSheet title s sheets)[k]? =
      if k = (sheets.map (·.1)).idxOf title then some (title, s) else sheets[k]? := by
  induction sheets generalizing k with
  | nil => cases h
  | cons first rest ih =>
    obtain ⟨other, found⟩ := first
    rw [findSheet] at h
    rw [replaceSheet]
    by_cases htitle : other = title
    · subst htitle
      rw [if_pos rfl, List.map_cons, List.idxOf_cons_self]
      cases k with
      | zero => rw [if_pos rfl, List.getElem?_cons_zero]
      | succ k => rw [if_neg (by omega), List.getElem?_cons_succ, List.getElem?_cons_succ]
    · rw [if_neg htitle] at h
      rw [if_neg htitle, List.map_cons, List.idxOf_cons_ne _ htitle]
      cases k with
      | zero => rw [if_neg (by omega), List.getElem?_cons_zero, List.getElem?_cons_zero]
      | succ k =>
        rw [List.getElem?_cons_succ, List.getElem?_cons_succ, ih h k]
        simp only [Nat.succ_inj]

theorem titles_replaceSheet (title : String) (s : Sheet) (sheets : List (String × Sheet)) :
    (replaceSheet title s sheets).map (·.1) = sheets.map (·.1) := by
  induction sheets with
  | nil => rfl
  | cons first rest ih =>
    obtain ⟨other, found⟩ := first
    rw [replaceSheet]
    split
    · rfl
    · rw [List.map_cons, ih, List.map_cons]

theorem findSheet_replaceSheet (s : Sheet) (h : findSheet title sheets = some old) :
    findSheet title (replaceSheet title s sheets) = some s := by
  rw [findSheet_eq_some_iff, titles_replaceSheet, getElem?_replaceSheet h, if_pos rfl]

theorem mem_replaceSheet {p : String × Sheet} (h : p ∈ replaceSheet title s sheets) :
    p.2 = s ∨ p ∈ sheets := by
  induction sheets with
  | nil => cases h
  | cons first rest ih =>
    obtain ⟨other, found⟩ := first
    rw [replaceSheet] at h
    split at h
    · rcases List.mem_cons.mp h with rfl | h
      · exact .inl rfl
      · exact .inr (List.mem_cons_of_mem _ h)
    · rcases List.mem_cons.mp h with rfl | h
      · exact .inr List.mem_cons_self
      · exact (ih h).imp id (List.mem_cons_of_mem _)

theorem mem_of_findSheet (h : findSheet title sheets = some s) : (title, s) ∈ sheets :=
  List.mem_of_getElem? (findSheet_eq_some_iff.mp h)

theorem exists_findSheet_of_mem (h : title ∈ sheets.map (·.1)) :
    ∃ s, findSheet title sheets = some s := by
  induction sheets with
  | nil => cases h
  | cons first rest ih =>
    obtain ⟨other, found⟩ := first
    rw [findSheet]
    by_cases htitle : other = title
    · exact ⟨found, if_pos htitle⟩
    · obtain ⟨s, hs⟩ := ih ((List.mem_cons.mp h).resolve_left (Ne.symm htitle))
      exact ⟨s, by rw [if_neg htitle, hs]⟩

/-! ## The sheets of a workbook -/

variable {book : Workbook}

theorem findSheet_of_sheet (h : book.sheet title = .ok s) :
    findSheet title book.sheets = some s := by
  unfold sheet at h
  split at h
  · next found hfound => rw [hfound, Except.ok.inj h]
  · cases h

theorem exists_sheet_of_mem (h : title ∈ book.titles) : ∃ s, book.sheet title = .ok s := by
  obtain ⟨s, hfind⟩ := exists_findSheet_of_mem h
  exact ⟨s, by rw [sheet, hfind]⟩

end WorkbookTools.Workbook
