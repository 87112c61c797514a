import WorkbookTools.Batch
import WorkbookTools.Opening
import WorkbookTools.Proofs.Range.Read
import WorkbookTools.Proofs.Workspace.Creating
import WorkbookTools.Range.Write

/-!
# What successful operations leave

An operation that succeeds on an existing workbook, without Excel, has read a workbook from the file
to which its path leads or has written one there. Either way a workbook is there afterwards.

* `setCells_ok`: how a batch succeeds that the file engine has carried out.
* `openWorkbook_leaves`, `readRange_leaves`, `writeRange_leaves`, `setCells_leaves`: the workbook that
  each operation leaves.
-/

namespace WorkbookTools

open WorkbookTools.Action FileSystem

/-- Excel cannot be used. -/
def Excel.Unavailable (x : Excel) : Prop :=
  ∀ a, (result Excel.availability x).1 = .ok a → a.available = false

namespace Workspace

variable {policy : Option PathPolicy} {p : Path} {w w' : Workspace}

/-! ## The file engine -/

theorem blockWritten_ok {r : WriteRangeRequest} {edited : Workbook}
    (h : result (blockWritten r p) w = (.ok edited, w')) :
    w' = w ∧ ∃ book sheet written,
      loaded p w.files = .ok book ∧ book.sheet r.sheet = .ok sheet ∧
      sheet.writeBlock r.autoFormula r.firstColumn.val r.firstRow.val r.values.val =
        (.ok (), written) ∧
      edited = book.setSheet r.sheet written := by
  unfold blockWritten at h
  rw [result_bind, result_load] at h
  cases hload : loaded p w.files with
  | error cause =>
    rw [hload] at h
    cases h
  | ok book =>
    rw [hload] at h
    obtain ⟨sheet, hsheet, h⟩ := ofExcept_bind_ok.mp h
    cases hwritten : sheet.writeBlock r.autoFormula r.firstColumn.val r.firstRow.val
        r.values.val with
    | mk outcome written =>
      rw [hwritten] at h
      obtain ⟨_, rfl, h⟩ := ofExcept_bind_ok.mp h
      cases h
      exact ⟨rfl, book, sheet, written, rfl, hsheet, hwritten, rfl⟩

theorem editFile_ok {autoFormula : Bool} {title : String} {edits : List CellEdit}
    {applied : List AppliedEdit}
    (h : result (editFile autoFormula p title fun update => CellEdit.applyAll update edits) w =
      (.ok applied, w')) :
    ∃ book sheet edited place kept,
      loaded p w.files = .ok book ∧ book.sheet title = .ok sheet ∧
      result (CellEdit.applyAll (Sheet.updater autoFormula) edits) sheet = (.ok applied, edited) ∧
      w.files.writeTarget p = .ok place ∧ (book.setSheet title edited).stored = .ok kept ∧
      OnlyLogs { w with files := w.files.set place (.file (.workbook kept)) } w' := by
  unfold editFile at h
  rw [result_bind, result_load] at h
  cases hload : loaded p w.files with
  | error cause =>
    rw [hload] at h
    cases h
  | ok book =>
    rw [hload] at h
    obtain ⟨sheet, hsheet, h⟩ := ofExcept_bind_ok.mp h
    cases hbody : result (CellEdit.applyAll (Sheet.updater autoFormula) edits) sheet with
    | mk outcome edited =>
      have hrun : (CellEdit.applyAll (Sheet.updater autoFormula) edits).run.run sheet =
          (outcome, edited) := hbody
      simp only [hrun] at h
      obtain ⟨found, rfl, hrest⟩ := ofExcept_bind_ok.mp h
      obtain ⟨_, saved, hsave, hreport⟩ := bind_ok.mp hrest
      obtain ⟨_, last, hinform, hend⟩ := bind_ok.mp hreport
      cases hend
      obtain ⟨place, kept, hplace, hstored, rfl⟩ := save_ok hsave
      exact ⟨book, sheet, edited, place, kept, rfl, hsheet, hbody, hplace, hstored,
        OnlyLogs.of_report hinform⟩

theorem setCells_ok {r : SetCellsRequest} {answer : SetCellsResult}
    (h : result (setCells policy r) w = (.ok answer, w')) (hengine : answer.engine = .file) :
    PathPolicy.resolvePath policy w.files r.path = .ok answer.path ∧
    ∃ start last, OnlyLogs w start ∧
      result (editFile r.autoFormula answer.path r.sheet fun update =>
        CellEdit.applyAll update (Instruction.partition r.instructions).edits) start =
          (.ok answer.applied, last) ∧
      OnlyLogs last w' := by
  unfold setCells at h
  obtain ⟨resolved, hresolved, -, h⟩ := existing_bind_ok h
  obtain ⟨_, -, h⟩ := ofExcept_bind_ok.mp h
  obtain ⟨excel, probed, hprobe, h⟩ := bind_ok.mp h
  rw [result_withExcel] at hprobe
  obtain ⟨-, rfl⟩ := Prod.mk.inj hprobe
  obtain ⟨engine, -, h⟩ := ofExcept_bind_ok.mp h
  obtain ⟨_, start, hreport, h⟩ := bind_ok.mp h
  obtain ⟨applied, last, hedit, h⟩ := bind_ok.mp h
  obtain ⟨_, informed, hinform, hend⟩ := bind_ok.mp h
  cases hend
  have hfile : engine = .file := hengine
  rw [hfile] at hedit
  have hstart := OnlyLogs.of_report hreport
  exact ⟨hresolved, start, last, ⟨hstart.logFile_eq, hstart.files⟩, hedit,
    OnlyLogs.of_report hinform⟩

/-! ## Workbooks that are left -/

theorem OnlyLogs.holdsWorkbook {place : Location} (h : OnlyLogs w w')
    (hplace : HoldsWorkbook w.files place) : HoldsWorkbook w'.files place := by
  rcases h.files with hsame | ⟨f, records, -, hwritten⟩
  · rw [hsame]
    exact hplace
  · rw [hwritten]
    exact hplace.writeRecords f records

/-- A workbook stands where the resolved path leads. -/
def Leaves (policy : Option PathPolicy) (p : Path) (w w' : Workspace) : Prop :=
  ∃ resolved place, PathPolicy.resolvePath policy w.files p = .ok resolved ∧
    w.files.MayLeadTo resolved place ∧ HoldsWorkbook w'.files place

theorem openWorkbook_leaves {answer : OpenedWorkbook} (hexcel : w.excel.Unavailable)
    (h : result (openWorkbook policy p) w = (.ok answer, w')) : Leaves policy p w w' := by
  obtain ⟨resolved, hresolved, -, h⟩ := existing_bind_ok h
  obtain ⟨_, -, h⟩ := ofExcept_bind_ok.mp h
  rw [result_ite] at h
  split at h
  · obtain ⟨book, opened, hbook, hrest⟩ := bind_ok.mp h
    obtain ⟨rfl, place, hlead, hholds⟩ := openStored_ok hbook
    obtain ⟨sheets, same, hsame, hrest⟩ := bind_ok.mp hrest
    cases hsame
    obtain ⟨_, last, hinform, hend⟩ := bind_ok.mp hrest
    cases hend
    exact ⟨resolved, place, hresolved, hlead.mayLeadTo,
      (OnlyLogs.of_report hinform).holdsWorkbook hholds⟩
  · obtain ⟨sheets, next, hlist, -⟩ := bind_ok.mp h
    obtain ⟨a, probed, havailable, hrest⟩ := bind_ok.mp hlist
    rw [result_withExcel] at havailable
    have hnone := hexcel a (mapError_eq_ok.mp (Prod.mk.inj havailable).1)
    rw [hnone] at hrest
    cases hrest

theorem readRange_leaves {r : ReadRangeRequest} {answer : ReadRangeResult}
    (h : result (readRange policy r) w = (.ok answer, w')) : Leaves policy r.path w w' := by
  rw [result_readRange] at h
  obtain ⟨hranged, rfl⟩ := Prod.mk.inj h
  obtain ⟨-, resolved, book, -, -, hfound, hopened, -⟩ := ranged_eq_ok.mp hranged
  have hbook : result (openStored resolved) w = (.ok book, w) := by rw [result_openStored, hopened]
  obtain ⟨-, place, hlead, hholds⟩ := openStored_ok hbook
  exact ⟨resolved, place, (existing_ok hfound).1, hlead.mayLeadTo, hholds⟩

theorem save_leaves {book : Workbook} (h : result (save p book) w = (.ok (), w')) :
    ∃ place, w.files.MayLeadTo p place ∧ HoldsWorkbook w'.files place := by
  obtain ⟨place, kept, hplace, -, rfl⟩ := save_ok h
  obtain ⟨hlead, hold⟩ := writeTarget_ok hplace
  exact ⟨place, hlead.mayLeadTo, kept, "", entryAt_set_self hold.ne_root _⟩

theorem writeRange_leaves {r : WriteRangeRequest} {answer : WriteRangeResult}
    (h : result (writeRange policy r) w = (.ok answer, w')) : Leaves policy r.path w w' := by
  obtain ⟨resolved, hresolved, -, h⟩ := existing_bind_ok h
  split at h
  · obtain ⟨book, next, hwritten, hrest⟩ := bind_ok.mp h
    obtain ⟨_, saved, hsave, hrest⟩ := bind_ok.mp hrest
    obtain ⟨_, last, hinform, hend⟩ := bind_ok.mp hrest
    cases hend
    obtain ⟨rfl, -⟩ := blockWritten_ok hwritten
    obtain ⟨place, hlead, hholds⟩ := save_leaves hsave
    exact ⟨resolved, place, hresolved, hlead, (OnlyLogs.of_report hinform).holdsWorkbook hholds⟩
  · cases h

theorem select_without_excel {choice : EngineChoice} {engine : Engine}
    (h : choice.select p false = .ok engine) : engine = .file := by
  unfold EngineChoice.select at h
  cases choice with
  | auto =>
    simp only [if_neg Bool.false_ne_true] at h
    split at h <;> cases h
    rfl
  | only asked =>
    cases asked with
    | excel => cases h
    | file =>
      simp only at h
      split at h <;> cases h
      rfl

/-- Without Excel a batch is carried out by the file engine. -/
theorem setCells_engine {r : SetCellsRequest} {answer : SetCellsResult} (hexcel : w.excel.Unavailable)
    (h : result (setCells policy r) w = (.ok answer, w')) : answer.engine = .file := by
  obtain ⟨resolved, -, -, h⟩ := existing_bind_ok h
  obtain ⟨_, -, h⟩ := ofExcept_bind_ok.mp h
  obtain ⟨a, probed, hprobe, h⟩ := bind_ok.mp h
  rw [result_withExcel] at hprobe
  have hnone := hexcel a (mapError_eq_ok.mp (Prod.mk.inj hprobe).1)
  obtain ⟨engine, hselect, h⟩ := ofExcept_bind_ok.mp h
  obtain ⟨_, start, -, h⟩ := bind_ok.mp h
  obtain ⟨applied, last, -, h⟩ := bind_ok.mp h
  obtain ⟨_, informed, -, hend⟩ := bind_ok.mp h
  cases hend
  rw [hnone] at hselect
  exact select_without_excel hselect

theorem setCells_leaves {r : SetCellsRequest} {answer : SetCellsResult} (hexcel : w.excel.Unavailable)
    (h : result (setCells policy r) w = (.ok answer, w')) : Leaves policy r.path w w' := by
  obtain ⟨hresolved, start, last, hstart, hedit, hlast⟩ := setCells_ok h (setCells_engine hexcel h)
  obtain ⟨book, sheet, edited, place, kept, -, -, -, hplace, -, hsaved⟩ := editFile_ok hedit
  obtain ⟨hlead, hold⟩ := writeTarget_ok hplace
  have hholds : HoldsWorkbook (start.files.set place (.file (.workbook kept))) place :=
    ⟨kept, "", entryAt_set_self hold.ne_root _⟩
  exact ⟨answer.path, place, hresolved, hlead.mayLeadTo.of_sameLinks hstart.sameLinks.symm,
    hlast.holdsWorkbook (hsaved.holdsWorkbook hholds)⟩

end Workspace

end WorkbookTools
