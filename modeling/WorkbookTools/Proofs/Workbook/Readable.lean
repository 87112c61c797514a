import WorkbookTools.Proofs.Workbook.Reload

/-!
# Workbooks that can be loaded again

A workbook that has been saved can be loaded if none of its texts has a foreign character and if
every cell can be read as it is written. Edits keep this: the texts that they assign are always read
as texts, whatever the cell was before.

* `read_of_isReadable`: a readable workbook can be loaded after it has been saved.
* `isReadable_update`: updates keep cells readable.
-/

namespace WorkbookTools

open Markup

/-! ## Readable cells -/

namespace Cell

def writtenForm (c : Cell) : WrittenCell := ⟨c.kind.writtenMark, c.writtenContent, c.style⟩

/-- No foreign character is written with the cell, and what is written can be read. -/
structure IsReadable (c : Cell) : Prop where
  fontName : ∀ x ∈ c.style.font.name.toList, ¬ isForeign x
  text : ∀ x ∈ c.writtenForm.text.toList, ¬ isForeign x
  content : ∃ held, c.writtenForm.readContent = .ok held

theorem isReadable_empty : empty.IsReadable := by
  refine ⟨?_, ?_, ⟨(.number, .empty), rfl⟩⟩
  · exact List.find?_eq_none.mp (by decide +kernel)
  · intro x hx
    cases hx

/-- Kind, value, number format and name of the font decide whether a cell is readable. -/
theorem IsReadable.congr {c d : Cell} (h : c.IsReadable) (hkind : d.kind = c.kind)
    (hvalue : d.value = c.value) (hformat : d.style.numberFormat = c.style.numberFormat)
    (hname : d.style.font.name = c.style.font.name) : d.IsReadable := by
  have hcontent : d.writtenContent = c.writtenContent := by
    simp only [writtenContent, hkind, hvalue]
  refine ⟨by rw [hname]; exact h.fontName, ?_, ?_⟩
  · have htext : d.writtenForm.text = c.writtenForm.text := by
      simp only [WrittenCell.text, writtenForm, hcontent]
    rw [htext]
    exact h.text
  · obtain ⟨held, hheld⟩ := h.content
    refine ⟨held, ?_⟩
    rw [← hheld]
    simp only [writtenForm, WrittenCell.readContent, WrittenCell.readValue, hkind, hcontent,
      hformat]

/-- A text under the mark of texts, formulas or errors is readable if it has no foreign
character. -/
theorem isReadable_text {c : Cell} {s : String}
    (hname : ∀ x ∈ c.style.font.name.toList, ¬ isForeign x) (hvalue : c.value = .text s)
    (hkind : c.kind = .text ∨ c.kind = .formula ∨ c.kind = .error)
    (hs : ∀ x ∈ s.toList, ¬ isForeign x) : c.IsReadable := by
  by_cases hempty : s = ""
  · have hcontent : c.writtenContent = .nothing := by
      rw [writtenContent, if_pos (.inr (by rw [hvalue, hempty]))]
    refine ⟨hname, ?_, ?_⟩
    · intro x hx
      rw [WrittenCell.text, writtenForm, hcontent] at hx
      cases hx
    · refine ⟨(c.kind.writtenMark.kind, .empty), ?_⟩
      rw [WrittenCell.readContent, writtenForm, hcontent]
  · have hfull : ¬ (c.value = .empty ∨ c.value = .text "") := by
      rw [hvalue]
      simp [hempty]
    rcases hkind with hkind | hkind | hkind
    · have hcontent : c.writtenContent = .inline s := by
        rw [writtenContent, if_neg hfull, hvalue, hkind]
        rfl
      refine ⟨hname, ?_, ⟨(.text, .text (storedText s)), ?_⟩⟩
      · rw [WrittenCell.text, writtenForm, hcontent]
        exact hs
      · rw [WrittenCell.readContent, writtenForm, hcontent]
    · have hcontent : c.writtenContent = .formula (String.ofList (s.toList.drop 1)) := by
        rw [writtenContent, if_neg hfull, hvalue, hkind]
        rfl
      refine ⟨hname, ?_,
        ⟨(.formula, .text ("=" ++ storedText (String.ofList (s.toList.drop 1)))), ?_⟩⟩
      · rw [WrittenCell.text, writtenForm, hcontent]
        intro x hx
        rw [String.toList_ofList] at hx
        exact hs x (List.mem_of_mem_drop hx)
      · rw [WrittenCell.readContent, writtenForm, hcontent]
    · have hcontent : c.writtenContent = .value (.text s) := by
        rw [writtenContent, if_neg hfull, hvalue, hkind]
        rfl
      refine ⟨hname, ?_, ⟨(.error, .text (storedText s)), ?_⟩⟩
      · rw [WrittenCell.text, writtenForm, hcontent]
        exact hs
      · rw [WrittenCell.readContent, writtenForm, hcontent, hkind]
        simp only [WrittenValue.text.injEq, if_neg hempty]
        rfl

theorem kindOfText_cases (s : String) :
    kindOfText s = .text ∨ kindOfText s = .formula ∨ kindOfText s = .error := by
  unfold kindOfText
  split
  · exact .inr (.inl rfl)
  · split
    · exact .inr (.inr rfl)
    · exact .inl rfl

/-- An update that is taken keeps a cell readable, unless it assigns a foreign character. -/
theorem isReadable_update {autoFormula : Bool} {c : Cell} {u : CellUpdate} (h : c.IsReadable)
    (hu : ∀ s, u = .text s → ∀ x ∈ s.toList, ¬ isForeign x)
    (hok : (c.update autoFormula u).1 = .ok ()) : (c.update autoFormula u).2.IsReadable := by
  cases u with
  | text s =>
    rw [update_text] at hok ⊢
    by_cases hillegal : (String.ofList (s.toList.take maxTextLength)).toList.any isIllegal
    · simp only [if_pos hillegal] at hok
      cases hok
    · simp only [if_neg hillegal]
      refine isReadable_text h.fontName rfl ?_ fun x hx => hu s rfl x ?_
      · simp only
        split
        · exact .inl rfl
        · exact kindOfText_cases _
      · rw [String.toList_ofList] at hx
        exact List.mem_of_mem_take hx
  | _ => exact h.congr rfl rfl rfl rfl

end Cell

/-! ## Readable sheets -/

namespace Sheet

open WorkbookTools.Action

/-- All cells of the sheet are of a kind. -/
def All (P : Cell → Prop) (s : Sheet) : Prop :=
  ∀ row columns, (row, columns) ∈ s.rows.toList →
    ∀ column c, (column, c) ∈ columns.toList → P c

variable {P : Cell → Prop} {s : Sheet}

theorem All.cellAt (h : s.All P) (hempty : P Cell.empty) (row column : Nat) :
    P (s.cellAt row column) := by
  unfold Sheet.cellAt Sheet.cell?
  cases hcolumns : s.rows.get? row with
  | none => exact hempty
  | some columns =>
    rw [Option.bind_some]
    cases hc : columns.get? column with
    | none => exact hempty
    | some c =>
      exact h row columns (IndexMap.mem_toList_of_get? hcolumns) column c
        (IndexMap.mem_toList_of_get? hc)

theorem All.setCell {c : Cell} (h : s.All P) (hc : P c) (row column : Nat) :
    (s.setCell row column c).All P := by
  intro i columns hcolumns j d hd
  rcases IndexMap.mem_toList_insert hcolumns with rfl | hold
  · rcases IndexMap.mem_toList_insert hd with rfl | hold
    · exact hc
    · cases hget : s.rows.get? row with
      | none =>
        rw [hget] at hold
        cases hold
      | some before =>
        rw [hget] at hold
        exact h row before (IndexMap.mem_toList_of_get? hget) j d hold
  · exact h i columns hold j d hd

def IsReadable (s : Sheet) : Prop :=
  ∀ row columns, (row, columns) ∈ s.rows.toList →
    ∀ column c, (column, c) ∈ columns.toList → c.IsReadable

theorem IsReadable.cellAt (h : s.IsReadable) (row column : Nat) :
    (s.cellAt row column).IsReadable :=
  All.cellAt h Cell.isReadable_empty row column

theorem IsReadable.setCell {c : Cell} (h : s.IsReadable) (hc : c.IsReadable) (row column : Nat) :
    (s.setCell row column c).IsReadable :=
  All.setCell h hc row column

/-- Edits that assign no foreign character keep a sheet readable. -/
theorem IsReadable.applyAll {autoFormula : Bool} {edits : List CellEdit} {s s' : Sheet}
    {applied : List AppliedEdit} (hs : s.IsReadable)
    (hcontents : ∀ e ∈ edits, ∀ text, e.content = some text → ∀ x ∈ text.toList, ¬ isForeign x)
    (h : result (CellEdit.applyAll (Sheet.updater autoFormula) edits) s = (.ok applied, s')) :
    s'.IsReadable := by
  refine Sheet.applyAll_preserves (fun e he p hp before after hbefore hupdate => ?_) h hs
  obtain ⟨hok, rfl⟩ := Sheet.updater_ok hupdate
  refine hbefore.setCell (Cell.isReadable_update (hbefore.cellAt _ _) ?_ hok) _ _
  exact fun text htext => hcontents e he text (CellEdit.content_of_mem_updates hp htext)

theorem storedRow_of_isReadable {columns : IndexMap Cell}
    (h : ∀ column c, (column, c) ∈ columns.toList → c.IsReadable) :
    ∃ cells, storedRow columns = .ok cells := by
  have hform : ∀ {column written}, (column, written) ∈ (columns.filterMap Cell.written?).toList →
      ∃ c : Cell, c.IsReadable ∧ c.writtenForm = written := by
    intro column written hwritten
    obtain ⟨c, hc, hform⟩ := IndexMap.mem_toList_filterMap hwritten
    unfold Cell.written? at hform
    split at hform
    · cases hform
    · exact ⟨c, h column c hc, Option.some.inj hform⟩
  cases hstored : storedRow columns with
  | ok cells => exact ⟨cells, rfl⟩
  | error e =>
    exfalso
    simp only [storedRow] at hstored
    split at hstored
    · next hforeign =>
      obtain ⟨⟨column, written⟩, hmem, hbad⟩ := List.any_eq_true.mp hforeign
      obtain ⟨c, hc, rfl⟩ := hform hmem
      obtain ⟨x, hx, hxforeign⟩ := List.any_eq_true.mp hbad
      exact hc.text x hx hxforeign
    · split at hstored
      · next hfault =>
        obtain ⟨⟨column, outcome⟩, hmem, hsome⟩ := List.exists_of_findSome?_eq_some hfault
        obtain ⟨written, hwritten, hread⟩ := IndexMap.mem_toList_filterMap hmem
        obtain ⟨c, hc, rfl⟩ := hform hwritten
        obtain ⟨held, hheld⟩ := hc.content
        rw [WrittenCell.read, hheld] at hread
        cases hread
        cases hsome
      · cases hstored

theorem read_of_isReadable {s : Sheet} (h : s.IsReadable) (styles : Unit → List CellStyle)
    (title : String) : ∃ s', (s.storedReadable styles title).read = .ok s' := by
  have hfault : firstFault? 0
      (s.rows.filterMap fun columns => some (storedRow columns)).toList = none := by
    cases hfirst : firstFault? 0
        (s.rows.filterMap fun columns => some (storedRow columns)).toList with
    | none => rfl
    | some fault =>
      obtain ⟨row, hrow⟩ := firstFault?_some hfirst
      obtain ⟨columns, hcolumns, hstored⟩ := IndexMap.mem_toList_filterMap hrow
      obtain ⟨cells, hcells⟩ := storedRow_of_isReadable (h row columns hcolumns)
      rw [hcells] at hstored
      cases hstored
  refine ⟨(s.storedReadable styles title).sheet, ?_⟩
  simp only [StoredSheet.read, storedReadable, hfault, Option.bind_none]

end Sheet

/-! ## Readable workbooks -/

namespace Workbook

/-- No title has a foreign character, and all sheets are readable. -/
structure IsReadable (book : Workbook) : Prop where
  titles : ∀ title ∈ book.titles, ∀ x ∈ title.toList, ¬ isForeign x
  sheets : ∀ p ∈ book.sheets, p.2.IsReadable

theorem IsReadable.setSheet {book : Workbook} {s : Sheet} (h : book.IsReadable) (hs : s.IsReadable)
    (title : String) : (book.setSheet title s).IsReadable := by
  constructor
  · have htitles : (book.setSheet title s).titles = book.titles :=
      titles_replaceSheet title s book.sheets
    rw [htitles]
    exact h.titles
  · intro p hp
    rcases mem_replaceSheet hp with hnew | hold
    · rw [hnew]
      exact hs
    · exact h.sheets p hold

theorem titleFault?_of_isReadable {book : Workbook} (h : book.IsReadable) :
    book.titleFault? = none := by
  rw [titleFault?, if_neg]
  intro hany
  obtain ⟨title, htitle, hbad⟩ := List.any_eq_true.mp hany
  obtain ⟨x, hx, hforeign⟩ := List.any_eq_true.mp hbad
  exact h.titles title htitle x hx hforeign

theorem fontFault?_of_isReadable {book : Workbook} (h : book.IsReadable) :
    book.fontFault? = none := by
  rw [fontFault?, if_neg]
  intro hany
  obtain ⟨p, hp, hcells⟩ := List.any_eq_true.mp hany
  obtain ⟨⟨row, column, c⟩, hc, hbad⟩ := List.any_eq_true.mp hcells
  obtain ⟨⟨i, columns⟩, hcolumns, hcell⟩ := List.mem_flatMap.mp hc
  obtain ⟨⟨j, d⟩, hd, hsame⟩ := List.mem_map.mp hcell
  cases hsame
  obtain ⟨x, hx, hforeign⟩ := List.any_eq_true.mp hbad
  exact (h.sheets p hp row columns hcolumns column c hd).fontName x hx hforeign

theorem readSheets_of_isReadable {styles : Unit → List CellStyle} {sheets : List (String × Sheet)}
    {kept : List StoredSheet} (h : ∀ p ∈ sheets, p.2.IsReadable)
    (hstored : storedSheets styles sheets = .ok kept) :
    ∃ after, StoredWorkbook.readSheets kept = .ok after := by
  induction sheets generalizing kept with
  | nil =>
    cases hstored
    exact ⟨[], rfl⟩
  | cons first rest ih =>
    obtain ⟨title, s⟩ := first
    unfold storedSheets at hstored
    obtain ⟨keptFirst, hfirst, hstored⟩ := Action.except_bind_ok.mp hstored
    obtain ⟨keptRest, hrest, hstored⟩ := Action.except_bind_ok.mp hstored
    cases hstored
    obtain rfl := Sheet.stored_ok hfirst
    obtain ⟨loadedFirst, hloadedFirst⟩ :=
      Sheet.read_of_isReadable (h _ List.mem_cons_self) styles title
    obtain ⟨loadedRest, hloadedRest⟩ := ih (fun p hp => h p (List.mem_cons_of_mem _ hp)) hrest
    refine ⟨(title, loadedFirst) :: loadedRest, ?_⟩
    rw [StoredWorkbook.readSheets, hloadedFirst, hloadedRest]
    rfl

/-- A readable workbook can be loaded after it has been saved. -/
theorem read_of_isReadable {book : Workbook} {kept : StoredWorkbook} (h : book.IsReadable)
    (hstored : book.stored = .ok kept) : kept.fault = none ∧ ∃ after, kept.read = .ok after := by
  obtain ⟨sheets, hsheets, hkept⟩ := Action.except_bind_ok.mp hstored
  cases hkept
  refine ⟨?_, ?_⟩
  · simp only [titleFault?_of_isReadable h, fontFault?_of_isReadable h]
    rfl
  · obtain ⟨after, hafter⟩ := readSheets_of_isReadable h.sheets hsheets
    refine ⟨⟨after⟩, ?_⟩
    rw [StoredWorkbook.read, hafter]
    rfl

end Workbook

end WorkbookTools
