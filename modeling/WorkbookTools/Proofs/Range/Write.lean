import WorkbookTools.Proofs.FileSystem.Shape
import WorkbookTools.Proofs.Range.Block
import WorkbookTools.Proofs.Workspace.LastMentions

/-!
# What writing a range leaves

A block that has been written is in the file: the workbook that is loaded afterwards is the one that
was loaded before, with the block on one of its sheets, saved and loaded again. A path under which
the workbook was found leads to it still.

* `writeRange_ok`: all that writing a range does.
* `ranged_of_loaded`: reading a range of a workbook that can be loaded.
-/

namespace WorkbookTools

open WorkbookTools.Action FileSystem

namespace StoredWorkbook

end StoredWorkbook

namespace Workbook

end Workbook

namespace Workspace

variable {policy : Option PathPolicy} {w w' : Workspace}

/-! ## Reading from a workbook that can be loaded -/

theorem existing_of_sameShape {files files' : FileSystem Content} (h : SameShape files files')
    (policy : Option PathPolicy) (p : Path) : existing policy files' p = existing policy files p := by
  simp only [existing, h.resolvePath_eq, h.pathExists_eq, h.isFile_eq]

theorem OnlyLogs.sameShape (h : OnlyLogs w w') : SameShape w.files w'.files := by
  rcases h.files with hsame | ⟨f, records, -, hwritten⟩
  · rw [hsame]
    exact SameShape.refl w.files
  · rw [hwritten]
    rcases writeRecords_cases f records w.files with hsame | ⟨content, more, hold, hset⟩
    · rw [hsame]
      exact SameShape.refl w.files
    · rw [hset]
      exact SameShape.set_file hold _

/-- A range that is written goes into the file that was found and loaded, and into no other. -/
theorem writeRange_ok {r : WriteRangeRequest} {answer : WriteRangeResult}
    (h : result (writeRange policy r) w = (.ok answer, w')) :
    existing policy w.files r.path = .ok answer.path ∧
    ∃ book sheet written place kept,
      loaded answer.path w.files = .ok book ∧ book.sheet r.sheet = .ok sheet ∧
      sheet.writeBlock r.autoFormula r.firstColumn.val r.firstRow.val r.values.val =
        (.ok (), written) ∧
      w.files.writeTarget answer.path = .ok place ∧
      (book.setSheet r.sheet written).stored = .ok kept ∧
      OnlyLogs { w with files := w.files.set place (.file (.workbook kept)) } w' ∧
      answer.sheet = r.sheet ∧ answer.cellCount = r.cellCount ∧
      ∃ hwidth, answer.range = (r.rectangle hwidth).name := by
  unfold writeRange at h
  obtain ⟨resolved, next, hexisting, h⟩ := bind_ok.mp h
  rw [result_existingWorkbook] at hexisting
  obtain ⟨hfound, rfl⟩ := Prod.mk.inj hexisting
  split at h
  · next hwidth =>
    obtain ⟨edited, loadedState, hwritten, hrest⟩ := bind_ok.mp h
    obtain ⟨_, saved, hsave, hrest⟩ := bind_ok.mp hrest
    obtain ⟨_, last, hinform, hend⟩ := bind_ok.mp hrest
    cases hend
    obtain ⟨rfl, book, sheet, written, hload, hsheet, hblock, rfl⟩ := blockWritten_ok hwritten
    obtain ⟨place, kept, hplace, hstored, rfl⟩ := save_ok hsave
    exact ⟨hfound, book, sheet, written, place, kept, hload, hsheet, hblock, hplace, hstored,
      OnlyLogs.of_report hinform, rfl, rfl, hwidth, rfl⟩
  · cases h

/-- A workbook that has been saved in place is what its file holds, before the records. -/
theorem read_of_saved {p : Path} {place : Location} {book : Workbook} {kept : StoredWorkbook}
    (hload : loaded p w.files = .ok book) (hplace : w.files.writeTarget p = .ok place)
    (hlogs : OnlyLogs { w with files := w.files.set place (.file (.workbook kept)) } w') :
    ∃ more, w'.files.read p = .ok (.archive (some kept) more) := by
  obtain ⟨stored, before, hcontent, -⟩ := loaded_ok hload
  obtain ⟨more, hread⟩ := hlogs.read_ok (read_set_target hcontent hplace (.workbook kept))
  exact ⟨_, hread⟩

/-- The log stays out of the file of a workbook that is saved in place. -/
theorem logElsewhere_set {p : Path} {place : Location} {book : Workbook} {content : Content}
    (hload : loaded p w.files = .ok book) (hplace : w.files.writeTarget p = .ok place)
    (hlog : LogElsewhere p w) :
    LogElsewhere p { w with files := w.files.set place (.file content) } := by
  obtain ⟨stored, more, hcontent, -⟩ := loaded_ok hload
  obtain ⟨target, hlead, -⟩ := read_ok hcontent
  obtain ⟨-, hold⟩ := writeTarget_ok hplace
  exact hlog.of_sameLinks hlead (sameLinks_set_file hold content) rfl

/-- Nothing but the workbook is in the file, unless the log grows there. -/
theorem read_of_saved_elsewhere {p : Path} {place : Location} {book : Workbook}
    {kept : StoredWorkbook} (hload : loaded p w.files = .ok book)
    (hplace : w.files.writeTarget p = .ok place) (hlog : LogElsewhere p w)
    (hlogs : OnlyLogs { w with files := w.files.set place (.file (.workbook kept)) } w') :
    w'.files.read p = .ok (.workbook kept) ∧ LogElsewhere p w' := by
  obtain ⟨stored, more, hcontent, -⟩ := loaded_ok hload
  have hsaved := read_set_target hcontent hplace (.workbook kept)
  have helsewhere : LogElsewhere p
      { w with files := w.files.set place (.file (.workbook kept)) } :=
    logElsewhere_set hload hplace hlog
  refine ⟨?_, hlogs.logElsewhere hsaved helsewhere⟩
  rw [hlogs.read_eq helsewhere]
  exact hsaved

end Workspace

end WorkbookTools
