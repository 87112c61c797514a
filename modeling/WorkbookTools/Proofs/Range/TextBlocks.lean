import WorkbookTools.Proofs.Editing.Attributes
import WorkbookTools.Proofs.Instruction.Spelling
import WorkbookTools.Proofs.Range.Write
import WorkbookTools.Proofs.Workbook.Loaded
import WorkbookTools.Proofs.Workspace.Batches

/-!
# Blocks of texts, written at once or by instructions

A block of texts can be written as a range, or by a batch with one instruction for each text, row by
row. Both come to the same calls of a setter, so both leave the same workbook. An instruction needs
an address that can be read, and that there is one for every text follows from the save: a sheet
with a cell too far to the right is not saved.

* `makeCalls_of_writeBlock`: a block that is written, as a row of calls.
* `parse_instruction`: a text without marks of its own is read from its instruction.
* `writeRange_savesCalls`, `setCells_savesCalls`: what the file holds after either way.

Main statement: `block_write_matches_instructions`.
-/

namespace WorkbookTools

open WorkbookTools.Action FileSystem

/-! ## Texts and their cells -/

/-- There is neither a quote nor an address anchor in the text. -/
def IsPlainText (s : String) : Prop := '\'' ∉ s.toList ∧ '@' ∉ s.toList

instance : DecidablePred IsPlainText := fun _ => inferInstanceAs (Decidable (_ ∧ _))

/-- A text for a cell. -/
structure PlacedText where
  row : Nat
  column : Nat
  text : String
  deriving DecidableEq, Repr

namespace PlacedText

/-- The instruction that writes the text and changes nothing else. -/
def instruction (t : PlacedText) : String := "'" ++ t.text ++ "'@" ++ cellName t.row t.column

def call (t : PlacedText) : SetterCall := ⟨t.row, t.column, .text t.text⟩

/-- The cell has an address that can be read. -/
def HasAddress (t : PlacedText) : Prop :=
  (1 ≤ t.row ∧ t.row ≤ maxIndex) ∧ 1 ≤ t.column ∧ t.column ≤ maxIndex

end PlacedText

/-- The texts of a line, from a column on. -/
def placedLine (row column : Nat) (line : List String) : List PlacedText :=
  (line.zipIdx column).map fun (text, j) => ⟨row, j, text⟩

/-- The texts of a block, row by row, from a cell on. -/
def placedTexts (row column : Nat) (lines : List (List String)) : List PlacedText :=
  (lines.zipIdx row).flatMap fun (line, i) => placedLine i column line

theorem placedLine_cons (row column : Nat) (text : String) (rest : List String) :
    placedLine row column (text :: rest) =
      ⟨row, column, text⟩ :: placedLine row (column + 1) rest := rfl

theorem placedTexts_cons (row column : Nat) (line : List String) (rest : List (List String)) :
    placedTexts row column (line :: rest) =
      placedLine row column line ++ placedTexts (row + 1) column rest := rfl

theorem exists_line_of_mem_placedTexts {row column : Nat} {lines : List (List String)}
    {t : PlacedText} (h : t ∈ placedTexts row column lines) : ∃ line ∈ lines, t.text ∈ line := by
  obtain ⟨⟨line, i⟩, hline, ht⟩ := List.mem_flatMap.mp h
  obtain ⟨⟨text, j⟩, htext, rfl⟩ := List.mem_map.mp ht
  exact ⟨line, List.fst_mem_of_mem_zipIdx hline, List.fst_mem_of_mem_zipIdx htext⟩

/-! ## A block as a row of calls -/

namespace Sheet

open SetterCall

variable {autoFormula : Bool} {s s' : Sheet} {row column : Nat}

theorem makeCalls_of_writeRow {line : List String}
    (h : s.writeRow autoFormula row column (line.map .text) = (.ok (), s')) :
    result (makeCalls (Sheet.updater autoFormula) ((placedLine row column line).map (·.call))) s =
      (.ok (), s') := by
  induction line generalizing s column with
  | nil =>
    cases h
    rfl
  | cons text rest ih =>
    rw [List.map_cons, writeRow] at h
    split at h
    · next written hwrite =>
      rw [placedLine_cons, List.map_cons]
      exact makeCalls_cons_ok.mpr ⟨written, result_updater_ok.mpr hwrite, ih h⟩
    · next hfailed => exact absurd h (hfailed s')

/-- A block of texts that is written, as a row of calls. -/
theorem makeCalls_of_writeBlock {lines : List (List String)}
    (h : s.writeBlock autoFormula column row (lines.map (·.map .text)) = (.ok (), s')) :
    result (makeCalls (Sheet.updater autoFormula) ((placedTexts row column lines).map (·.call))) s =
      (.ok (), s') := by
  induction lines generalizing s row with
  | nil =>
    cases h
    rfl
  | cons line rest ih =>
    rw [List.map_cons, writeBlock] at h
    split at h
    · next written hwrite =>
      rw [placedTexts_cons, List.map_append]
      exact makeCalls_append (makeCalls_of_writeRow hwrite) (ih h)
    · next hfailed => exact absurd h (hfailed s')

/-! ## Columns of saved sheets -/

theorem column_le_of_stored {styles : Unit → List CellStyle} {title : String} {kept : StoredSheet}
    {i j : Nat} (hstored : s.stored styles title = .ok kept) (hcell : (s.cell? i j).isSome) :
    j ≤ maxSavedColumn := by
  obtain ⟨c, hc⟩ := Option.isSome_iff_exists.mp hcell
  obtain ⟨columns, hcolumns, hplace⟩ := Option.bind_eq_some_iff.mp hc
  have hmem : (i, j, c) ∈ s.cells :=
    mem_cells (IndexMap.mem_toList_of_get? hcolumns) (IndexMap.mem_toList_of_get? hplace)
  have hcolumn : j ∈ s.cells.map (·.2.1) := List.mem_map.mpr ⟨_, hmem, rfl⟩
  have hextent : ∀ last, (s.cells.map (·.2.1)).max? = some last → last ∈ s.columnExtent :=
    fun last hlast => List.mem_append_right _ (Option.mem_toList.mpr hlast)
  unfold Sheet.stored at hstored
  split at hstored
  · cases hstored
  next hnone =>
    cases hlast : (s.cells.map (·.2.1)).max? with
    | none =>
      rw [List.max?_eq_none_iff.mp hlast] at hcolumn
      cases hcolumn
    | some last =>
      have hle : j ≤ last := (List.max?_eq_some_iff.mp hlast).2 j hcolumn
      have hsaved := List.find?_eq_none.mp hnone last (hextent last hlast)
      simp only [decide_eq_true_eq, not_lt] at hsaved
      exact Nat.le_trans hle hsaved

end Sheet

theorem Workbook.sheet_stored {styles : Unit → List CellStyle} {sheets : List (String × Sheet)}
    {kept : List StoredSheet} {title : String} {s : Sheet}
    (h : storedSheets styles sheets = .ok kept) (hmem : (title, s) ∈ sheets) :
    ∃ stored, s.stored styles title = .ok stored := by
  induction sheets generalizing kept with
  | nil => cases hmem
  | cons first rest ih =>
    unfold storedSheets at h
    obtain ⟨keptFirst, hfirst, h⟩ := except_bind_ok.mp h
    obtain ⟨keptRest, hrest, h⟩ := except_bind_ok.mp h
    rcases List.mem_cons.mp hmem with rfl | hmem
    · exact ⟨keptFirst, hfirst⟩
    · exact ih hrest hmem

namespace Instruction

/-! ## Reading the instructions -/

/-- A text without marks of its own is read from its instruction, and nothing else is. -/
theorem parse_instruction {t : PlacedText} (hplain : IsPlainText t.text) (haddress : t.HasAddress)
    (index : Nat) : ∃ e, parse index t.instruction = .ok e ∧ e.calls = [t.call] := by
  obtain ⟨⟨hrow, hrowLe⟩, hcolumn, hcolumnLe⟩ := haddress
  let e : CellEdit :=
    ⟨index, ⟨t.row, t.column, hrow, hrowLe, hcolumn, hcolumnLe⟩, some t.text, .empty, none, none⟩
  have hcontent : e.HasPlainContent := by
    intro s hs
    cases hs
    exact hplain
  have hspelled : e.spelled [] = t.instruction := by
    apply String.toList_injective
    simp [CellEdit.spelled, CellEdit.spelledFields, spelledContent, styleField, e,
      TailField.spelled, PlacedText.instruction, CellAddress.reference]
  refine ⟨e, ?_, rfl⟩
  rw [← hspelled]
  exact parse_of_spelled (List.Perm.refl _) hcontent index

theorem mapIdx_parse_instructions {texts : List PlacedText}
    (h : ∀ t ∈ texts, IsPlainText t.text ∧ t.HasAddress) (f : Nat → Nat) :
    ∃ edits : List CellEdit,
      (texts.map (·.instruction)).mapIdx (fun k => parse (f k)) = edits.map .ok ∧
        edits.flatMap CellEdit.calls = texts.map (·.call) := by
  induction texts generalizing f with
  | nil => exact ⟨[], rfl, rfl⟩
  | cons t rest ih =>
    obtain ⟨hplain, haddress⟩ := h t List.mem_cons_self
    obtain ⟨e, hparse, hcalls⟩ := parse_instruction hplain haddress (f 0)
    obtain ⟨edits, hedits, hrest⟩ := ih (fun u hu => h u (List.mem_cons_of_mem t hu)) (f <| · + 1)
    refine ⟨e :: edits, ?_, ?_⟩
    · rw [List.map_cons, List.mapIdx_cons, hparse, hedits, List.map_cons]
    · rw [List.flatMap_cons, hcalls, hrest]
      rfl

/-- No instruction of a block is rejected, and its edits are the calls of the block. -/
theorem partition_instructions {texts : List PlacedText}
    (h : ∀ t ∈ texts, IsPlainText t.text ∧ t.HasAddress) :
    (partition (texts.map (·.instruction))).skipped = [] ∧
      (partition (texts.map (·.instruction))).edits.flatMap CellEdit.calls =
        texts.map (·.call) := by
  obtain ⟨edits, hparse, hcalls⟩ := mapIdx_parse_instructions h id
  have hresults : parseAll (texts.map (·.instruction)) = edits.map .ok := hparse
  have haccepted : accepted (edits.map .ok) = edits := by simp [accepted, List.filterMap_map]
  have hrejected : rejected (edits.map .ok) = [] := by simp [rejected, List.filterMap_map]
  simp only [partition, hresults, haccepted, hrejected, hcalls, and_self]

end Instruction

/-! ## Two ways to write a block -/

/-- A block of texts for a sheet of a workbook. Lines may differ in length. -/
structure TextBlock where
  path : Path
  sheet : String
  firstRow : { n : Nat // 1 ≤ n }
  firstColumn : { n : Nat // 1 ≤ n }
  lines : { lines : List (List String) // lines ≠ [] }
  autoFormula : Bool

namespace TextBlock

def texts (b : TextBlock) : List PlacedText :=
  placedTexts b.firstRow.val b.firstColumn.val b.lines.val

/-- The request to write the block at once. -/
def asRange (b : TextBlock) : WriteRangeRequest :=
  ⟨b.path, b.sheet, b.firstRow, b.firstColumn,
    ⟨b.lines.val.map (·.map .text), by simpa using b.lines.property⟩, b.autoFormula⟩

/-- The request to write the block by instructions, row by row. -/
def asBatch (b : TextBlock) (engine : EngineChoice) : SetCellsRequest :=
  ⟨b.path, b.sheet, b.texts.map (·.instruction), engine, b.autoFormula⟩

end TextBlock

namespace Workspace

open SetterCall

variable {policy : Option PathPolicy} {p : Path} {w w' : Workspace}

/-- The file of a path holds a workbook that has been saved there, and nothing behind it but records
of the log, if the log grows in this file. -/
structure HasSaved (p : Path) (kept : StoredWorkbook) (w w' : Workspace) : Prop where
  holds : ∃ more, w'.files.read p = .ok (.archive (some kept) more)
  holds_alone : LogElsewhere p w → w'.files.read p = .ok (.workbook kept)

/-- Calls have been made on a sheet of a workbook, and the file holds the workbook afterwards. -/
structure SavesCalls (autoFormula : Bool) (p : Path) (title : String) (calls : List SetterCall)
    (book : Workbook) (sheet edited : Sheet) (kept : StoredWorkbook) (w w' : Workspace) :
    Prop where
  sheet_eq : book.sheet title = .ok sheet
  calls_ok : result (makeCalls (Sheet.updater autoFormula) calls) sheet = (.ok (), edited)
  stored_eq : (book.setSheet title edited).stored = .ok kept
  saved : HasSaved p kept w w'

theorem writeRange_savesCalls {b : TextBlock} {answer : WriteRangeResult}
    (h : result (writeRange policy b.asRange) w = (.ok answer, w')) :
    ∃ book sheet edited kept, loaded answer.path w.files = .ok book ∧
      SavesCalls b.autoFormula answer.path b.sheet (b.texts.map (·.call)) book sheet edited kept
        w w' ∧
      ∀ i j, edited.cellAt i j =
        (sheet.cellAt i j).overwritten b.autoFormula (b.asRange.value? i j) := by
  obtain ⟨-, book, sheet, edited, place, kept, hload, hsheet, hblock, hplace, hstored, hlogs, -⟩ :=
    writeRange_ok h
  refine ⟨book, sheet, edited, kept, hload, ⟨hsheet, Sheet.makeCalls_of_writeBlock hblock, hstored,
    read_of_saved hload hplace hlogs, fun hlog => ?_⟩, Sheet.writeBlock_ok hblock⟩
  exact (read_of_saved_elsewhere hload hplace hlog hlogs).1

/-- A batch of the file engine edits the workbook in the file, whether its own records have been
added to the file or not. -/
theorem setCells_savesCalls {r : SetCellsRequest} {answer : SetCellsResult} {book : Workbook}
    (h : result (setCells policy r) w = (.ok answer, w')) (hengine : answer.engine = .file)
    (hload : loaded answer.path w.files = .ok book) :
    ∃ sheet edited kept, SavesCalls r.autoFormula answer.path r.sheet
      ((Instruction.partition r.instructions).edits.flatMap CellEdit.calls) book sheet edited kept
        w w' := by
  obtain ⟨-, start, last, hstart, hedit, hlast⟩ := setCells_ok h hengine
  obtain ⟨found, sheet, edited, place, kept, hfound, hsheet, happly, hplace, hstored, hlogs⟩ :=
    editFile_ok hedit
  obtain rfl := hstart.growsByRecords.loaded_eq hload hfound
  refine ⟨sheet, edited, kept, hsheet, Sheet.makeCalls_of_applyAll happly, hstored, ?_, ?_⟩
  · obtain ⟨more, hsaved⟩ := read_of_saved hfound hplace hlogs
    obtain ⟨later, hread⟩ := hlast.read_ok hsaved
    exact ⟨_, hread⟩
  · intro hlog
    obtain ⟨stored, more, hcontent, -⟩ := loaded_ok hload
    obtain ⟨hsaved, helsewhere⟩ :=
      read_of_saved_elsewhere hfound hplace (hstart.logElsewhere hcontent hlog) hlogs
    rw [hlast.read_eq helsewhere]
    exact hsaved

/-- The answer to a batch names the instructions that are rejected. -/
theorem setCells_skipped {r : SetCellsRequest} {answer : SetCellsResult}
    (h : result (setCells policy r) w = (.ok answer, w')) :
    answer.skipped = (Instruction.partition r.instructions).skipped := by
  rw [setCells_eq] at h
  obtain ⟨⟨resolved, excel, engine⟩, start, -, h⟩ := bind_ok.mp h
  obtain ⟨applied, edited, -, h⟩ := bind_ok.mp h
  obtain ⟨_, informed, -, hend⟩ := bind_ok.mp h
  cases hend
  rfl

/-- The same calls leave the same workbook. -/
theorem SavesCalls.unique {autoFormula : Bool} {title : String} {calls : List SetterCall}
    {book : Workbook} {sheet edited sheet' edited' : Sheet} {kept kept' : StoredWorkbook}
    {w'' : Workspace} (h : SavesCalls autoFormula p title calls book sheet edited kept w w')
    (h' : SavesCalls autoFormula p title calls book sheet' edited' kept' w w'') : kept' = kept := by
  obtain rfl : sheet = sheet' := Except.ok.inj (h.sheet_eq.symm.trans h'.sheet_eq)
  obtain rfl : edited = edited' := (Prod.mk.inj (h.calls_ok.symm.trans h'.calls_ok)).2
  exact Except.ok.inj (h'.stored_eq.symm.trans h.stored_eq)

/-- The cells of calls that were made before a save have columns that can be saved. -/
theorem SavesCalls.inside {autoFormula : Bool} {title : String} {calls : List SetterCall}
    {book : Workbook} {sheet edited : Sheet} {kept : StoredWorkbook}
    (h : SavesCalls autoFormula p title calls book sheet edited kept w w') :
    ∀ call ∈ calls, call.InSheet ∧ call.column ≤ maxSavedColumn := by
  obtain ⟨stored, hsheets, -⟩ := except_bind_ok.mp h.stored_eq
  have hfind := Workbook.findSheet_replaceSheet edited (Workbook.findSheet_of_sheet h.sheet_eq)
  obtain ⟨keptSheet, hkept⟩ := Workbook.sheet_stored hsheets (Workbook.mem_of_findSheet hfind)
  intro call hcall
  obtain ⟨hinside, hcell⟩ := (makeCalls_leave_cells h.calls_ok).2 call hcall
  have hat : call.isAt call.row.toNat call.column.toNat = true := by
    obtain ⟨⟨hrow, -⟩, hcolumn⟩ := hinside
    simp only [isAt, decide_eq_true_eq]
    omega
  have hle := Sheet.column_le_of_stored hkept (hcell _ _ hat)
  exact ⟨hinside, by omega⟩

/-- A block of texts without quotes and address anchors can be written at once, or by the row of
instructions that spell its texts with their cells. If both succeed, no instruction is rejected and
the file holds the same workbook after either way, with the same values, kinds and styles: the one
that it held before, with each text written to its cell. -/
theorem block_write_matches_instructions (policy : Option PathPolicy) (b : TextBlock)
    (engine : EngineChoice) (hplain : ∀ line ∈ b.lines.val, ∀ text ∈ line, IsPlainText text)
    {w w₁ w₂ : Workspace} {a₁ : WriteRangeResult} {a₂ : SetCellsResult}
    (hwrite : result (writeRange policy b.asRange) w = (.ok a₁, w₁))
    (hbatch : result (setCells policy (b.asBatch engine)) w = (.ok a₂, w₂))
    (hengine : a₂.engine = .file) :
    a₂.path = a₁.path ∧ a₂.skipped = [] ∧
      ∃ book sheet edited kept,
        loaded a₁.path w.files = .ok book ∧ book.sheet b.sheet = .ok sheet ∧
        (∀ i j, edited.cellAt i j =
          (sheet.cellAt i j).overwritten b.autoFormula (b.asRange.value? i j)) ∧
        (book.setSheet b.sheet edited).stored = .ok kept ∧
        HasSaved a₁.path kept w w₁ ∧ HasSaved a₁.path kept w w₂ := by
  have hfound : PathPolicy.resolvePath policy w.files b.path = .ok a₁.path :=
    (existing_ok (writeRange_ok hwrite).1).1
  have hpath : a₂.path = a₁.path :=
    Except.ok.inj ((setCells_ok hbatch hengine).1.symm.trans hfound)
  obtain ⟨book, sheet, edited, kept, hload, hblock, hcells⟩ := writeRange_savesCalls hwrite
  have hread : ∀ t ∈ b.texts, IsPlainText t.text ∧ t.HasAddress := by
    intro t ht
    obtain ⟨line, hline, htext⟩ := exists_line_of_mem_placedTexts ht
    obtain ⟨⟨⟨hrow, hlast⟩, hcolumn⟩, hsaved⟩ := hblock.inside t.call (List.mem_map_of_mem ht)
    simp only [PlacedText.call, Sheet.maxRow, maxSavedColumn] at hrow hlast hcolumn hsaved
    refine ⟨hplain line hline t.text htext, ?_⟩
    unfold PlacedText.HasAddress maxIndex
    omega
  obtain ⟨hskipped, hcalls⟩ := Instruction.partition_instructions hread
  rw [← hpath] at hload
  obtain ⟨sheet', edited', kept', hbatched⟩ := setCells_savesCalls hbatch hengine hload
  have hedits : (Instruction.partition (b.asBatch engine).instructions).edits.flatMap
      CellEdit.calls = b.texts.map (·.call) := hcalls
  rw [hedits, hpath] at hbatched
  rw [hpath] at hload
  obtain rfl : kept' = kept := hblock.unique hbatched
  exact ⟨hpath, (setCells_skipped hbatch).trans hskipped, book, sheet, edited, kept', hload,
    hblock.sheet_eq, hcells, hblock.stored_eq, hblock.saved, hbatched.saved⟩

/-! ## A block with a literal formula, an empty text and two lines -/

def formulaBlock : TextBlock :=
  ⟨Path.ofText "/book.xlsx", "Sheet1", ⟨1, Nat.one_pos⟩, ⟨27, Nat.succ_pos 26⟩,
    ⟨[["=1+1", ""], ["50% #1\n$"]], List.cons_ne_nil _ _⟩, false⟩

/-- The instructions of the block. -/
example : (formulaBlock.asBatch .auto).instructions =
    ["'=1+1'@AA1", "''@AB1", "'50% #1\n$'@AA2"] := by
  decide +kernel

/-- The text that begins with the equals sign stays a text either way. -/
theorem formula_block_is_saved_twice :
    ∃ a₁ w₁ a₂ w₂ edited kept,
      result (writeRange none formulaBlock.asRange) titledWorkspace = (.ok a₁, w₁) ∧
      result (setCells none (formulaBlock.asBatch (.only .file))) titledWorkspace = (.ok a₂, w₂) ∧
      a₂.engine = .file ∧ a₂.path = a₁.path ∧ a₂.skipped = [] ∧
      (edited.cellAt 1 27).kind = .text ∧ (edited.cellAt 1 27).value = .text "=1+1" ∧
      (titledBook.setSheet "Sheet1" edited).stored = .ok kept ∧
      w₁.files.read a₁.path = .ok (.workbook kept) ∧
      w₂.files.read a₁.path = .ok (.workbook kept) := by
  have hwrite : (result (writeRange none formulaBlock.asRange) titledWorkspace).1.map
      (fun a => a.path) = .ok (Path.ofText "/book.xlsx") := by
    decide +kernel
  have hbatch : (result (setCells none (formulaBlock.asBatch (.only .file)))
      titledWorkspace).1.map (fun a => a.engine) = .ok .file := by
    decide +kernel
  have hbefore : loaded (Path.ofText "/book.xlsx") titledWorkspace.files = .ok titledBook := by
    decide +kernel
  obtain ⟨a₁, hfirst, hplace⟩ := map_eq_ok.mp hwrite
  obtain ⟨a₂, hsecond, hengine⟩ := map_eq_ok.mp hbatch
  obtain ⟨w₁, hw₁⟩ : ∃ w₁, result (writeRange none formulaBlock.asRange) titledWorkspace =
      (.ok a₁, w₁) := ⟨_, by rw [← hfirst]⟩
  obtain ⟨w₂, hw₂⟩ : ∃ w₂, result (setCells none (formulaBlock.asBatch (.only .file)))
      titledWorkspace = (.ok a₂, w₂) := ⟨_, by rw [← hsecond]⟩
  obtain ⟨hpath, hskipped, book, sheet, edited, kept, hload, -, hcells, hkept, hkept₁, hkept₂⟩ :=
    block_write_matches_instructions none formulaBlock (.only .file) (by decide) hw₁ hw₂ hengine
  rw [hplace] at hload
  obtain rfl := Except.ok.inj (hbefore.symm.trans hload)
  have helsewhere : LogElsewhere a₁.path titledWorkspace := fun f hf => by cases hf
  have hcell := hcells 1 27
  refine ⟨a₁, w₁, a₂, w₂, edited, kept, hw₁, hw₂, hengine, hpath, hskipped, ?_, ?_, hkept,
    hkept₁.holds_alone helsewhere, hkept₂.holds_alone helsewhere⟩
  · rw [hcell]
    rfl
  · rw [hcell]
    rfl

end Workspace

end WorkbookTools
