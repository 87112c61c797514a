import Mathlib.Data.List.Forall2
import WorkbookTools.Proofs.Editing.Sheets
import WorkbookTools.Proofs.IndexMap
import WorkbookTools.Proofs.Workbook.Markup
import WorkbookTools.Proofs.Workbook.Titles
import WorkbookTools.Workbook.Stored

/-!
# Cells that are saved and loaded

Saving and loading concerns each cell of a workbook alone. The attributes of its style always come
back; its content does if it is read as it was written, and the size of its font if sixteen digits
of it are enough.

* `reloads_of_read`: the cells of a sheet after saving and loading.
* `sheets_reload`: the sheets of a workbook after saving and loading.
* `results_of_stored`: a workbook that has been saved holds no results of its formulas.
-/

namespace WorkbookTools

open Markup

/-! ## One cell -/

namespace Cell

/-- The content is read as it was written; nothing is always read as nothing. -/
def HasLastingContent (c : Cell) : Prop :=
  c.value = .empty ∨
    WrittenCell.readContent ⟨c.kind.writtenMark, c.writtenContent, c.style⟩ = .ok (c.kind, c.value)

instance (c : Cell) : Decidable c.HasLastingContent := inferInstanceAs (Decidable (_ ∨ _))

instance (c : Cell) : Decidable c.HasLastingSize := inferInstanceAs (Decidable (_ = _))

/-- What comes back of a cell when it has been saved and loaded. -/
structure Reloads (c d : Cell) : Prop where
  field : ∀ f, (f = .content → c.HasLastingContent) → d.field f = c.field f
  read : c.value ≠ .empty →
    WrittenCell.readContent ⟨c.kind.writtenMark, c.writtenContent, c.style⟩ = .ok (d.kind, d.value)
  rest : d.rest = c.rest
  size : c.HasLastingSize → d.style.font.size = c.style.font.size

theorem reloads_empty : Reloads empty empty :=
  ⟨fun _ _ => rfl, fun h => absurd rfl h, rfl, fun _ => rfl⟩

theorem content_eq_of_empty {c : Cell} (h : c.value = .empty) :
    c.field .content = .content none := by
  rw [field, if_pos h]

theorem value_eq_empty {c : Cell} (h : c.field .content = .content none) : c.value = .empty := by
  by_cases hempty : c.value = .empty
  · exact hempty
  · rw [field, if_neg hempty] at h
    cases h

/-- Whether the content lasts depends on the content and the number format. -/
theorem HasLastingContent.congr {c d : Cell} (h : c.HasLastingContent)
    (hcontent : d.field .content = c.field .content) (hrest : d.rest = c.rest) :
    d.HasLastingContent := by
  rcases h with hempty | hread
  · refine .inl (value_eq_empty ?_)
    rw [hcontent, content_eq_of_empty hempty]
  · by_cases hempty : d.value = .empty
    · exact .inl hempty
    have hnonempty : c.value ≠ .empty := by
      intro hc
      rw [content_eq_of_empty hc] at hcontent
      exact hempty (value_eq_empty hcontent)
    rw [field, field, if_neg hempty, if_neg hnonempty] at hcontent
    obtain ⟨hkind, hvalue⟩ : d.kind = c.kind ∧ d.value = c.value := by simpa using hcontent
    have hformat : d.style.numberFormat = c.style.numberFormat :=
      congrArg CellRest.numberFormat hrest
    refine .inr ?_
    rw [hkind, hvalue, ← hread]
    simp only [WrittenCell.readContent, WrittenCell.readValue, writtenContent, hkind, hvalue,
      hformat]

/-- A cell that is written comes back as it is read. -/
theorem reloads_of_written {c d : Cell} {written : WrittenCell}
    (hwritten : c.written? = some written) (hread : written.read = .ok d) : Reloads c d := by
  unfold Cell.written? at hwritten
  split at hwritten
  · cases hwritten
  obtain rfl := Option.some.inj hwritten
  unfold WrittenCell.read at hread
  cases hcontent : WrittenCell.readContent ⟨c.kind.writtenMark, c.writtenContent, c.style⟩ with
  | error e =>
    rw [hcontent] at hread
    cases hread
  | ok held =>
    rw [hcontent] at hread
    cases hread
    refine ⟨fun f hf => ?_, fun _ => hcontent, rfl, fun hsize => hsize⟩
    cases f with
    | content =>
      rcases hf rfl with hempty | hlasting
      · have hnothing : c.writtenContent = .nothing := by
          rw [writtenContent, if_pos (.inl hempty)]
        rw [hnothing] at hcontent
        cases hcontent
        rw [content_eq_of_empty hempty]
        rfl
      · rw [hlasting] at hcontent
        cases hcontent
        rfl
    | _ => rfl

/-- A cell that is not written comes back as a new one. -/
theorem reloads_of_not_written {c : Cell} (hwritten : c.written? = none) :
    Reloads c Cell.empty := by
  unfold Cell.written? at hwritten
  split at hwritten
  · next hnothing =>
    obtain ⟨hempty, hstyle⟩ := hnothing
    refine ⟨fun f _ => ?_, fun h => absurd hempty h, ?_, fun _ => ?_⟩
    · cases f with
      | content =>
        rw [content_eq_of_empty hempty]
        rfl
      | _ => simp only [field, hstyle, Cell.empty]
    · simp only [rest, hstyle, Cell.empty]
    · rw [hstyle, Cell.empty]
  · cases hwritten

end Cell

/-! ## One sheet -/

namespace Sheet

theorem get?_of_isEmpty {α : Type} {m : IndexMap α} (h : m.isEmpty) (k : Nat) :
    m.get? k = none := by
  cases hget : m.get? k with
  | none => rfl
  | some v =>
    have hmem := IndexMap.mem_toList_of_get? hget
    rw [List.isEmpty_iff.mp h] at hmem
    cases hmem

theorem firstFault?_none {l : List (Nat × Except RowFault (IndexMap Cell))} {before : Nat}
    (h : firstFault? before l = none) : ∀ p ∈ l, ∃ cells, p.2 = .ok cells := by
  induction l generalizing before with
  | nil => simp
  | cons p rest ih =>
    obtain ⟨row, outcome⟩ := p
    cases outcome with
    | error e => cases h
    | ok cells =>
      intro q hq
      rcases List.mem_cons.mp hq with rfl | hq
      · exact ⟨cells, rfl⟩
      · exact ih h q hq

theorem firstFault?_some {l : List (Nat × Except RowFault (IndexMap Cell))} {before last : Nat}
    {e : RowFault} (h : firstFault? before l = some (last, e)) : ∃ row, (row, .error e) ∈ l := by
  induction l generalizing before with
  | nil => cases h
  | cons p rest ih =>
    obtain ⟨row, outcome⟩ := p
    cases outcome with
    | error other =>
      cases h
      exact ⟨row, List.mem_cons_self⟩
    | ok cells =>
      obtain ⟨found, hfound⟩ := ih h
      exact ⟨found, List.mem_cons_of_mem _ hfound⟩

theorem cellFault?_none {cells : IndexMap (Except NumberFault Cell)} (h : cellFault? cells = none) :
    ∀ p ∈ cells.toList, ∃ c, p.2 = .ok c := by
  intro p hp
  have hnone := List.findSome?_eq_none_iff.mp h p hp
  obtain ⟨column, outcome⟩ := p
  cases outcome with
  | error e => cases hnone
  | ok c => exact ⟨c, rfl⟩

theorem storedRow_malformed {columns : IndexMap Cell} (h : storedRow columns = .error .malformed) :
    ∃ column c written, (column, c) ∈ columns.toList ∧ c.written? = some written ∧
      written.text.toList.any isForeign := by
  unfold storedRow at h
  simp only at h
  split at h
  · next hany =>
    obtain ⟨⟨column, written⟩, hmem, hforeign⟩ := List.any_eq_true.mp hany
    obtain ⟨c, hc, hwritten⟩ := IndexMap.mem_toList_filterMap hmem
    exact ⟨column, c, written, hc, hwritten, hforeign⟩
  · split at h <;> cases h

theorem storedRow_ok {columns cells : IndexMap Cell} (h : storedRow columns = .ok cells)
    (column : Nat) :
    Cell.Reloads ((columns.get? column).getD .empty) ((cells.get? column).getD .empty) := by
  unfold storedRow at h
  simp only at h
  split at h
  · cases h
  split at h
  · cases h
  · next hfault =>
    cases h
    simp only [IndexMap.get?_filterMap]
    cases hget : columns.get? column with
    | none => exact Cell.reloads_empty
    | some c =>
      simp only [Option.bind_some, Option.getD_some]
      cases hwritten : c.written? with
      | none => exact Cell.reloads_of_not_written hwritten
      | some written =>
        simp only [Option.bind_some]
        have hmem : (column, written.read) ∈
            ((columns.filterMap Cell.written?).filterMap fun c => some c.read).toList := by
          apply IndexMap.mem_toList_of_get?
          simp only [IndexMap.get?_filterMap, hget, hwritten, Option.bind_some]
        obtain ⟨d, hd⟩ := cellFault?_none hfault _ hmem
        have hread : written.read = .ok d := hd
        rw [hread]
        exact Cell.reloads_of_written hwritten hread

theorem stored_ok {styles : Unit → List CellStyle} {title : String} {s : Sheet} {kept : StoredSheet}
    (h : s.stored styles title = .ok kept) : kept = s.storedReadable styles title := by
  unfold Sheet.stored at h
  split at h
  · cases h
  split at h
  · cases h
  · exact (Except.ok.inj h).symm

theorem read_ok {k : StoredSheet} {s : Sheet} (h : k.read = .ok s) :
    k.fault = none ∧ k.sheet = s := by
  unfold StoredSheet.read at h
  split at h
  · cases h
  · next hfault => exact ⟨hfault, Except.ok.inj h⟩

/-- The reader finds the place of a foreign character, and stops at its row. -/
theorem fault_of_malformed {styles : Unit → List CellStyle} {title : String} {s : Sheet}
    {before : Nat}
    (h : firstFault? 0 (s.rows.filterMap fun columns => some (storedRow columns)).toList =
      some (before, .malformed)) :
    ∃ place, (s.storedReadable styles title).fault = some ⟨before, .malformed place⟩ := by
  obtain ⟨row, hrow⟩ := firstFault?_some h
  obtain ⟨columns, hcolumns, hmalformed⟩ := IndexMap.mem_toList_filterMap hrow
  obtain ⟨column, c, written, hcolumn, hwritten, hforeign⟩ :=
    storedRow_malformed (Option.some.inj hmalformed)
  obtain ⟨place, hplace⟩ := Option.ne_none_iff_exists'.mp
    (faultIn?_sheet (styles ()) hcolumns hcolumn hwritten hforeign)
  refine ⟨place, ?_⟩
  simp only [storedReadable, h, Option.bind_some, hplace, Option.map_some]

theorem rows_ok {styles : Unit → List CellStyle} {title : String} {s : Sheet}
    (h : (s.storedReadable styles title).fault = none) {row : Nat} {columns : IndexMap Cell}
    (hrow : s.rows.get? row = some columns) : ∃ cells, storedRow columns = .ok cells := by
  have hmem : (row, storedRow columns) ∈
      (s.rows.filterMap fun columns => some (storedRow columns)).toList := by
    apply IndexMap.mem_toList_of_get?
    rw [IndexMap.get?_filterMap, hrow, Option.bind_some]
  cases hfirst : firstFault? 0
      (s.rows.filterMap fun columns => some (storedRow columns)).toList with
  | none => exact firstFault?_none hfirst _ hmem
  | some fault =>
    obtain ⟨before, e⟩ := fault
    cases e with
    | number e =>
      simp only [storedReadable, hfirst, Option.bind_some] at h
      cases h
    | malformed =>
      obtain ⟨place, hplace⟩ : ∃ place,
          (s.storedReadable styles title).fault = some ⟨before, .malformed place⟩ :=
        fault_of_malformed hfirst
      rw [hplace] at h
      cases h

/-- The cells of a sheet that can be read as a whole. -/
theorem reloads_of_read {styles : Unit → List CellStyle} {title : String} {s s' : Sheet}
    (h : (s.storedReadable styles title).read = .ok s') (row column : Nat) :
    Cell.Reloads (s.cellAt row column) (s'.cellAt row column) := by
  obtain ⟨hfault, hkept⟩ := read_ok h
  rw [← hkept]
  unfold cellAt
  simp only [storedReadable, cell?, IndexMap.get?_filterMap]
  cases hcolumns : s.rows.get? row with
  | none => exact Cell.reloads_empty
  | some columns =>
    obtain ⟨cells, hcells⟩ := rows_ok hfault hcolumns
    have hread := storedRow_ok hcells column
    simp only [Option.bind_some, hcells]
    split
    · next hempty =>
      rw [get?_of_isEmpty hempty] at hread
      exact hread
    · exact hread

end Sheet

/-! ## One workbook -/

namespace Workbook

/-- A sheet comes back under its title. -/
def SheetReloads (before after : String × Sheet) : Prop :=
  after.1 = before.1 ∧
    ∀ row column, Cell.Reloads (before.2.cellAt row column) (after.2.cellAt row column)

/-- What relates a sheet to the one that is read of it relates all sheets of a workbook. -/
theorem forall₂_of_stored {R : Sheet → Sheet → Prop} {styles : Unit → List CellStyle}
    {before after : List (String × Sheet)} {kept : List StoredSheet}
    (hR : ∀ {title s s'}, (Sheet.storedReadable styles title s).read = .ok s' → R s s')
    (hstored : storedSheets styles before = .ok kept)
    (hread : StoredWorkbook.readSheets kept = .ok after) :
    List.Forall₂ (fun p q => q.1 = p.1 ∧ R p.2 q.2) before after := by
  induction before generalizing kept after with
  | nil =>
    cases hstored
    cases hread
    exact .nil
  | cons first rest ih =>
    obtain ⟨title, s⟩ := first
    unfold storedSheets at hstored
    obtain ⟨keptFirst, hfirst, hstored⟩ := Action.except_bind_ok.mp hstored
    obtain ⟨keptRest, hrest, hstored⟩ := Action.except_bind_ok.mp hstored
    cases hstored
    unfold StoredWorkbook.readSheets at hread
    obtain ⟨loadedFirst, hloaded, hread⟩ := Action.except_bind_ok.mp hread
    obtain ⟨loadedRest, hloadedRest, hread⟩ := Action.except_bind_ok.mp hread
    cases hread
    refine .cons ?_ (ih hrest hloadedRest)
    obtain rfl := Sheet.stored_ok hfirst
    exact ⟨rfl, hR hloaded⟩

theorem sheets_reload {styles : Unit → List CellStyle} {before after : List (String × Sheet)}
    {kept : List StoredSheet} (hstored : storedSheets styles before = .ok kept)
    (hread : StoredWorkbook.readSheets kept = .ok after) :
    List.Forall₂ SheetReloads before after :=
  forall₂_of_stored Sheet.reloads_of_read hstored hread

theorem reloads_of_stored {book after : Workbook} {kept : StoredWorkbook}
    (hstored : book.stored = .ok kept) (hread : kept.read = .ok after) :
    List.Forall₂ SheetReloads book.sheets after.sheets := by
  obtain ⟨sheets, hsheets, hkept⟩ := Action.except_bind_ok.mp hstored
  cases hkept
  obtain ⟨loaded, hloaded, hafter⟩ := Action.except_bind_ok.mp hread
  cases hafter
  exact sheets_reload hsheets hloaded

theorem titles_of_reloads {sheets sheets' : List (String × Sheet)}
    (h : List.Forall₂ SheetReloads sheets sheets') : sheets'.map (·.1) = sheets.map (·.1) := by
  induction h with
  | nil => rfl
  | cons hfirst hrest ih => rw [List.map_cons, List.map_cons, ih, hfirst.1]

theorem getElem?_of_forall₂ {α β : Type} {R : α → β → Prop} {l : List α} {l' : List β}
    (h : List.Forall₂ R l l') {k : Nat} {a : α} (hk : l[k]? = some a) :
    ∃ b, l'[k]? = some b ∧ R a b := by
  induction h generalizing k with
  | nil => cases hk
  | cons hfirst hrest ih =>
    cases k with
    | zero =>
      cases hk
      exact ⟨_, rfl, hfirst⟩
    | succ k => exact ih hk

/-- The sheets of a workbook in which one was edited before it was saved and loaded. -/
theorem reloads_of_setSheet {book after : Workbook} {title : String} {sheet edited : Sheet}
    (hfind : findSheet title book.sheets = some sheet)
    (hreloads : List.Forall₂ SheetReloads (book.setSheet title edited).sheets after.sheets)
    {k : Nat} {name : String} {old : Sheet} (hk : book.sheets[k]? = some (name, old)) :
    ∃ new, after.sheets[k]? = some (name, new) ∧ (k = book.titles.idxOf title → old = sheet) ∧
      ∀ i j, Cell.Reloads
        (if k = book.titles.idxOf title then edited.cellAt i j else old.cellAt i j)
        (new.cellAt i j) := by
  have hedited : (book.setSheet title edited).sheets[k]? =
      if k = book.titles.idxOf title then some (title, edited) else book.sheets[k]? :=
    getElem?_replaceSheet hfind k
  by_cases hindex : k = book.titles.idxOf title
  · have hsame : book.sheets[k]? = some (title, sheet) := by
      rw [hindex]
      exact findSheet_eq_some_iff.mp hfind
    rw [hk] at hsame
    cases hsame
    rw [if_pos hindex] at hedited
    obtain ⟨⟨_, new⟩, hafter, rfl, hcell⟩ := getElem?_of_forall₂ hreloads hedited
    refine ⟨new, hafter, fun _ => rfl, fun i j => ?_⟩
    rw [if_pos hindex]
    exact hcell i j
  · rw [if_neg hindex, hk] at hedited
    obtain ⟨⟨_, new⟩, hafter, rfl, hcell⟩ := getElem?_of_forall₂ hreloads hedited
    refine ⟨new, hafter, fun h => absurd h hindex, fun i j => ?_⟩
    rw [if_neg hindex]
    exact hcell i j

end Workbook

end WorkbookTools
