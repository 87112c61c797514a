import WorkbookTools.Proofs.Editing.Sheets
import WorkbookTools.Proofs.Workspace.Successes

/-!
# Failed edits

A block of values and a batch of instructions edit a workbook in place: the workbook is loaded,
edited in memory and saved. Whatever fails before the save leaves the file alone. The save empties
the file before it finds that the workbook cannot be written, so such a failure loses it.

* `failed_edit_keeps_target_iff`: the target of a failed edit loads as before if and only if the
  error is not one of saving.
* `failed_edit_loses_target`: an edit by which a workbook is lost.
-/

namespace WorkbookTools.Workspace

open WorkbookTools.Action FileSystem

/-! ## Edits in place -/

/-- A call that edits a workbook in place. -/
inductive FileEdit where
  | block (r : WriteRangeRequest)
  | batch (r : SetCellsRequest)

namespace FileEdit

def path : FileEdit → Path
  | block r => r.path
  | batch r => r.path

def run (policy : Option PathPolicy) : FileEdit → Action Unit
  | block r => do let _ ← writeRange policy r
  | batch r => do let _ ← setCells policy r

/-- The file engine carries out the edit. -/
def UsesFiles (x : Excel) : FileEdit → Prop
  | block _ => True
  | batch r =>
    r.engine = .only .file ∨ r.engine = .auto ∧ x.Unavailable

end FileEdit

/-! ## Errors before the save -/

variable {policy : Option PathPolicy} {p resolved : Path} {w w' : Workspace} {e : Error}

theorem existing_error {files : FileSystem Content} (h : existing policy files p = .error e) :
    e.isSaveFailure = false := by
  unfold existing at h
  repeat' split at h
  all_goals cases h
  all_goals rfl

theorem loaded_error {files : FileSystem Content} (h : loaded p files = .error e) :
    e.isSaveFailure = false := by
  rcases loaded_failure h with ⟨_, rfl⟩ | ⟨_, rfl⟩ <;> rfl

theorem edit_error {s s' : Sheet} {row column : Int} {change : Cell → Except String Unit × Cell}
    {cause : SheetError} (h : s.edit row column change = (.error cause, s')) :
    (Error.sheet cause).isSaveFailure = false := by
  unfold Sheet.edit at h
  split at h
  · cases h
    rfl
  · split at h
    · cases h
      rfl
    · obtain ⟨hcause, -⟩ := Prod.mk.inj h
      cases hchange : (change ((s.cell? row.toNat column.toNat).getD Cell.empty)).1 with
      | ok _ =>
        rw [hchange] at hcause
        cases hcause
      | error text =>
        rw [hchange] at hcause
        cases hcause
        rfl

theorem writeRow_error {autoFormula : Bool} {row column : Nat} {values : List Scalar}
    {s s' : Sheet} {cause : SheetError}
    (h : Sheet.writeRow autoFormula row column values s = (.error cause, s')) :
    (Error.sheet cause).isSaveFailure = false := by
  induction values generalizing column s with
  | nil => cases h
  | cons v rest ih =>
    unfold Sheet.writeRow at h
    split at h
    · exact ih h
    · next hfailed => exact edit_error h

theorem writeBlock_error {autoFormula : Bool} {row column : Nat} {rows : List (List Scalar)}
    {s s' : Sheet} {cause : SheetError}
    (h : Sheet.writeBlock autoFormula column row rows s = (.error cause, s')) :
    (Error.sheet cause).isSaveFailure = false := by
  induction rows generalizing row s with
  | nil => cases h
  | cons values rest ih =>
    unfold Sheet.writeBlock at h
    split at h
    · exact ih h
    · exact writeRow_error h

theorem updater_error {autoFormula : Bool} {row column : Int} {u : CellUpdate} {s s' : Sheet}
    (h : result (Sheet.updater autoFormula row column u) s = (.error e, s')) :
    ∃ refusal, e = .sheet refusal ∧ e.isSaveFailure = false := by
  rw [Sheet.result_updater] at h
  cases hupdate : Sheet.update autoFormula s row column u with
  | mk outcome edited =>
    rw [hupdate] at h
    cases outcome with
    | ok _ => cases h
    | error refusal =>
      cases h
      exact ⟨refusal, rfl, edit_error hupdate⟩

/-- An edit of a sheet in memory fails because the sheet refuses it. -/
theorem apply_error {autoFormula : Bool} {edit : CellEdit} {s s' : Sheet}
    (h : result (edit.apply (Sheet.updater autoFormula)) s = (.error e, s')) :
    ∃ refusal, e = .sheet refusal ∧ e.isSaveFailure = false := by
  unfold CellEdit.apply at h
  rcases bind_error.mp h with h | ⟨_, _, -, h⟩
  · obtain ⟨_, -, _, hupdate⟩ := forM_error h
    exact updater_error hupdate
  · cases h

theorem applyReported_error {autoFormula : Bool} {edit : CellEdit} {s s' : Sheet}
    (h : result (edit.applyReported (Sheet.updater autoFormula)) s = (.error e, s')) :
    e.isSaveFailure = false := by
  unfold CellEdit.applyReported at h
  rw [result_tryCatch] at h
  split at h
  · cases h
  · next cause next happly =>
    cases h
    obtain ⟨-, -, hcause⟩ := apply_error happly
    unfold CellEdit.failure
    split
    · rfl
    · exact hcause

theorem applyAll_error {autoFormula : Bool} {edits : List CellEdit} {s s' : Sheet}
    (h : result (CellEdit.applyAll (Sheet.updater autoFormula) edits) s = (.error e, s')) :
    e.isSaveFailure = false := by
  induction edits generalizing s with
  | nil => cases h
  | cons edit rest ih =>
    unfold CellEdit.applyAll at h
    rcases bind_error.mp h with h | ⟨_, _, -, h⟩
    · exact applyReported_error h
    · rcases bind_error.mp h with h | ⟨_, _, -, h⟩
      · exact ih h
      · cases h

theorem sheet_stored_error {styles : Unit → List CellStyle} {title : String} {s : Sheet}
    {cause : SheetError} (h : s.stored styles title = .error cause) :
    (Error.sheet cause).isSaveFailure = true := by
  unfold Sheet.stored at h
  split at h
  · cases h
    rfl
  · split at h
    · cases h
      rfl
    · cases h

theorem storedSheets_error {styles : Unit → List CellStyle} {sheets : List (String × Sheet)}
    {cause : SheetError} (h : Workbook.storedSheets styles sheets = .error cause) :
    (Error.sheet cause).isSaveFailure = true := by
  induction sheets with
  | nil => cases h
  | cons first rest ih =>
    obtain ⟨title, s⟩ := first
    unfold Workbook.storedSheets at h
    cases hfirst : s.stored styles title with
    | error e =>
      rw [hfirst] at h
      cases h
      exact sheet_stored_error hfirst
    | ok kept =>
      rw [hfirst] at h
      cases hrest : Workbook.storedSheets styles rest with
      | error e =>
        rw [hrest] at h
        cases h
        exact ih hrest
      | ok others =>
        rw [hrest] at h
        cases h

theorem stored_error {book : Workbook} {cause : SheetError} (h : book.stored = .error cause) :
    (Error.sheet cause).isSaveFailure = true := by
  unfold Workbook.stored at h
  cases hsheets : Workbook.storedSheets (fun () => book.styles) book.sheets with
  | error e =>
    rw [hsheets] at h
    cases h
    exact storedSheets_error hsheets
  | ok sheets =>
    rw [hsheets] at h
    cases h

/-! ## How an edit in place fails -/

/-- An edit that has failed: before the save, or in the save of a workbook that was loaded. -/
def FailsInPlace (p : Path) (w w' : Workspace) (e : Error) : Prop :=
  (w' = w ∧ e.isSaveFailure = false) ∨
    ∃ book edited, loaded p w.files = .ok book ∧ result (save p edited) w = (.error e, w')

theorem blockWritten_error {r : WriteRangeRequest}
    (h : result (blockWritten r resolved) w = (.error e, w')) :
    w' = w ∧ e.isSaveFailure = false := by
  unfold blockWritten at h
  rw [result_bind, result_load] at h
  cases hload : loaded resolved w.files with
  | error cause =>
    rw [hload] at h
    cases h
    exact ⟨rfl, loaded_error hload⟩
  | ok book =>
    rw [hload] at h
    rcases ofExcept_bind_error.mp h with ⟨cause, -, rfl, rfl⟩ | ⟨sheet, -, h⟩
    · exact ⟨rfl, rfl⟩
    · cases hwritten : sheet.writeBlock r.autoFormula r.firstColumn.val r.firstRow.val
          r.values.val with
      | mk outcome written =>
        rw [hwritten] at h
        rcases ofExcept_bind_error.mp h with ⟨cause, rfl, rfl, rfl⟩ | ⟨_, -, h⟩
        · exact ⟨rfl, writeBlock_error hwritten⟩
        · cases h

theorem writeRange_error {r : WriteRangeRequest}
    (htarget : ∀ found, PathPolicy.resolvePath policy w.files r.path = .ok found → found = p)
    (h : result (writeRange policy r) w = (.error e, w')) : FailsInPlace p w w' e := by
  unfold writeRange at h
  rw [result_bind, result_existingWorkbook] at h
  cases hexisting : existing policy w.files r.path with
  | error cause =>
    rw [hexisting] at h
    cases h
    exact .inl ⟨rfl, existing_error hexisting⟩
  | ok resolved =>
    obtain rfl : resolved = p := htarget resolved (existing_ok hexisting).1
    simp only [hexisting] at h
    split at h
    · rcases bind_error.mp h with hfailed | ⟨edited, next, hwritten, hrest⟩
      · exact .inl (blockWritten_error hfailed)
      · obtain ⟨rfl, book, -, -, hload, -, -, -⟩ := blockWritten_ok hwritten
        rcases bind_error.mp hrest with hsave | ⟨_, _, -, hinform⟩
        · exact .inr ⟨book, edited, hload, hsave⟩
        · cases hinform
    · cases h
      exact .inl ⟨rfl, rfl⟩

theorem editFile_error {autoFormula : Bool} {title : String} {edits : List CellEdit}
    (h : result (editFile autoFormula p title fun update => CellEdit.applyAll update edits) w =
      (.error e, w')) : FailsInPlace p w w' e := by
  unfold editFile at h
  rw [result_bind, result_load] at h
  cases hload : loaded p w.files with
  | error cause =>
    rw [hload] at h
    cases h
    exact .inl ⟨rfl, loaded_error hload⟩
  | ok book =>
    rw [hload] at h
    rcases ofExcept_bind_error.mp h with ⟨cause, -, rfl, rfl⟩ | ⟨sheet, -, h⟩
    · exact .inl ⟨rfl, rfl⟩
    · cases hbody : result (CellEdit.applyAll (Sheet.updater autoFormula) edits) sheet with
      | mk outcome edited =>
        have hrun : (CellEdit.applyAll (Sheet.updater autoFormula) edits).run.run sheet =
            (outcome, edited) := hbody
        simp only [hrun] at h
        rcases ofExcept_bind_error.mp h with ⟨cause, rfl, rfl, rfl⟩ | ⟨applied, -, h⟩
        · exact .inl ⟨rfl, applyAll_error hbody⟩
        · rcases bind_error.mp h with h | ⟨_, _, -, h⟩
          · exact .inr ⟨book, _, hload, h⟩
          · cases h

/-! ## What is left of the target -/

/-- A file whose writing was broken off cannot be loaded. -/
theorem loaded_unfinished {files : FileSystem Content} {place : Location}
    (hplace : files.writeTarget p = .ok place) (book : Workbook) :
    loaded p (files.set place (.file .unfinished)) ≠ .ok book := by
  intro hload
  unfold loaded at hload
  split at hload
  · cases hload
  · next stored hopened =>
    obtain ⟨content, hread, hopen⟩ := opened_ok hopened
    obtain rfl := read_written hplace hread
    cases hopen

/-- After a failure in place the target loads as before, unless the save has failed. -/
theorem FailsInPlace.loaded_eq_iff (h : FailsInPlace p w w' e) :
    loaded p w'.files = loaded p w.files ↔ e.isSaveFailure = false := by
  rcases h with ⟨rfl, he⟩ | ⟨book, edited, hload, hsave⟩
  · exact ⟨fun _ => he, fun _ => rfl⟩
  · rcases save_error hsave with ⟨rfl, he⟩ | ⟨place, cause, hplace, hstored, rfl, rfl⟩
    · exact ⟨fun _ => he, fun _ => rfl⟩
    · have hlost : loaded p (w.files.set place (.file .unfinished)) ≠ loaded p w.files := by
        rw [hload]
        exact loaded_unfinished hplace book
      have hcause : (Error.sheet cause).isSaveFailure = true := stored_error hstored
      rw [hcause]
      exact ⟨fun h => absurd h hlost, fun h => by cases h⟩

theorem engine_eq_file {r : SetCellsRequest} {x : Excel} {a : Availability} {engine : Engine}
    (hengine : (FileEdit.batch r).UsesFiles x) (ha : (result Excel.availability x).1 = .ok a)
    (hselect : r.engine.select p a.available = .ok engine) : engine = .file := by
  rcases hengine with hfile | ⟨-, hexcel⟩
  · rw [hfile, EngineChoice.select] at hselect
    split at hselect <;> cases hselect
    rfl
  · rw [hexcel a ha] at hselect
    exact select_without_excel hselect

/-- A batch fails in place after its records have been written to the log, or before. -/
theorem setCells_error {r : SetCellsRequest} (hengine : (FileEdit.batch r).UsesFiles w.excel)
    (htarget : ∀ found, PathPolicy.resolvePath policy w.files r.path = .ok found → found = p)
    (h : result (setCells policy r) w = (.error e, w')) :
    ∃ start, OnlyLogs w start ∧ FailsInPlace p start w' e := by
  unfold setCells at h
  rw [result_bind, result_existingWorkbook] at h
  cases hexisting : existing policy w.files r.path with
  | error cause =>
    rw [hexisting] at h
    cases h
    exact ⟨w, OnlyLogs.of_eq rfl rfl, .inl ⟨rfl, existing_error hexisting⟩⟩
  | ok resolved =>
    obtain rfl : resolved = p := htarget resolved (existing_ok hexisting).1
    simp only [hexisting] at h
    rcases ofExcept_bind_error.mp h with ⟨cause, -, rfl, rfl⟩ | ⟨_, -, hprobe⟩
    · exact ⟨w', OnlyLogs.of_eq rfl rfl, .inl ⟨rfl, rfl⟩⟩
    let probed : Workspace := { w with excel := (result Excel.availability w.excel).2 }
    rw [result_bind, result_withExcel] at hprobe
    cases havailable : (result Excel.availability w.excel).1 with
    | error f =>
      rw [havailable] at hprobe
      cases hprobe
      exact ⟨probed, OnlyLogs.of_eq rfl rfl, .inl ⟨rfl, rfl⟩⟩
    | ok a =>
      rw [havailable] at hprobe
      rcases ofExcept_bind_error.mp hprobe with ⟨cause, -, rfl, rfl⟩ | ⟨engine, hselect, hreport⟩
      · exact ⟨probed, OnlyLogs.of_eq rfl rfl, .inl ⟨rfl, rfl⟩⟩
      obtain rfl := engine_eq_file hengine havailable hselect
      rcases bind_error.mp hreport with hrecords | ⟨_, start, hrecords, hrest⟩
      · cases hrecords
      have hlogs : OnlyLogs w start := by
        obtain ⟨hlogFile, hfiles⟩ := OnlyLogs.report _ probed
        rw [hrecords] at hlogFile hfiles
        exact ⟨hlogFile, hfiles⟩
      rcases bind_error.mp hrest with hedit | ⟨_, _, -, hinform⟩
      · exact ⟨start, hlogs, editFile_error hedit⟩
      · cases hinform

/-! ## The target of a failed edit -/

/-- After a failed edit the target loads exactly as before, if and only if the error is none of
saving. The target is where the path of the edit resolves to; where it does not resolve, this holds
of every path. The log is supposed to grow elsewhere. -/
theorem failed_edit_keeps_target_iff (policy : Option PathPolicy) (edit : FileEdit) (p : Path)
    (w w' : Workspace) (e : Error) (hengine : edit.UsesFiles w.excel)
    (htarget : ∀ found, PathPolicy.resolvePath policy w.files edit.path = .ok found → found = p)
    (hlog : LogElsewhere p w) (hfailed : result (edit.run policy) w = (.error e, w')) :
    (result (load p) w').1 = (result (load p) w).1 ↔ e.isSaveFailure = false := by
  rw [result_load, result_load]
  cases edit with
  | block r =>
    rcases bind_error.mp hfailed with hrun | ⟨_, _, -, hend⟩
    · exact (writeRange_error htarget hrun).loaded_eq_iff
    · cases hend
  | batch r =>
    rcases bind_error.mp hfailed with hrun | ⟨_, _, -, hend⟩
    · obtain ⟨start, hstart, hfails⟩ := setCells_error hengine htarget hrun
      rw [← hstart.loaded_eq hlog]
      exact hfails.loaded_eq_iff
    · cases hend

/-! ## One workbook, two failures -/

def keptBook : Workbook :=
  ⟨[("Sheet1", Sheet.empty.setCell 1 1 ⟨.text, .text "kept", .default⟩)]⟩

/-- The workbook in a file, in a file system that holds nothing else. -/
def keptWorkspace : Workspace :=
  .ofFiles
    ⟨[(["book.xlsx"], .file (match keptBook.stored with
      | .ok stored => .workbook stored
      | .error _ => .unfinished))]⟩
    .absent

/-- The request to write one text into the first row of that workbook. -/
def writeText (sheet : String) (column : { n : Nat // 1 ≤ n }) : WriteRangeRequest :=
  ⟨Path.ofText "/book.xlsx", sheet, ⟨1, Nat.one_pos⟩, column,
    ⟨[[.text "no"]], List.cons_ne_nil _ _⟩, false⟩

/-- An unknown sheet is found out before the save. -/
theorem unknown_sheet_keeps_target :
    let edit := FileEdit.block (writeText "Other" ⟨1, by decide⟩)
    (result (edit.run none) keptWorkspace).1 =
        .error (.title (.unknown "Other" ["Sheet1"])) ∧
      (result (load edit.path) (result (edit.run none) keptWorkspace).2).1 =
        (result (load edit.path) keptWorkspace).1 := by
  have htarget : PathPolicy.resolvePath none keptWorkspace.files (Path.ofText "/book.xlsx") =
      .ok (Path.ofText "/book.xlsx") := by decide +kernel
  refine ⟨by decide +kernel, ?_⟩
  exact (failed_edit_keeps_target_iff none (.block (writeText "Other" ⟨1, by decide⟩))
    (Path.ofText "/book.xlsx") keptWorkspace _ (.title (.unknown "Other" ["Sheet1"])) trivial
    (fun found hfound => (Except.ok.inj (htarget.symm.trans hfound)).symm)
    (fun f hf => by cases hf) (by decide +kernel)).mpr rfl

/-- A column beyond the last one that can be saved is found out when the file is empty already. -/
theorem failed_edit_loses_target :
    let edit := FileEdit.block (writeText "Sheet1" ⟨18279, by decide⟩)
    (result (edit.run none) keptWorkspace).1 = .error (.sheet (.unsavableColumn 18279)) ∧
      (result (load edit.path) keptWorkspace).1 = .ok keptBook ∧
      (result (load edit.path) (result (edit.run none) keptWorkspace).2).1 =
        .error (.format (.archive (.noPart Archive.contentsName))) := by
  decide +kernel

end WorkbookTools.Workspace
