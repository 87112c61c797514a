import WorkbookTools.Proofs.Excel.Availability
import WorkbookTools.Proofs.Range.Write
import WorkbookTools.Proofs.Workspace.Batches
import WorkbookTools.Proofs.Workspace.FailedEdits

/-!
# The two steps of an edit

A call that edits a workbook in place loads the whole workbook and edits it in memory, and then it
saves the whole workbook. Between the two steps it holds a draft, and nothing keeps other calls from
the file.

* `run_eq_steps`: a call is its two steps, one right after the other.
* `prepare_ok`, `prepare_of`: when the first step succeeds, and with which draft.
* `complete_ok`, `complete_of`: when the second step succeeds, and what is in the file then.
-/

namespace WorkbookTools.Workspace

open WorkbookTools.Action FileSystem

variable {policy : Option PathPolicy} {p : Path} {w w' w'' : Workspace}

/-! ## The steps -/

/-- A workbook that has been loaded and edited in memory, but not saved. -/
structure Draft where
  path : Path
  book : Workbook
  /-- What is to be written to the log after the workbook has been saved. -/
  records : List LogRecord
  deriving DecidableEq

/-- The first step of writing a block of values. -/
def prepareBlock (policy : Option PathPolicy) (r : WriteRangeRequest) : Action Draft := do
  let resolved ← existingWorkbook policy r.path
  if h : 1 ≤ r.width then
    let book ← blockWritten r resolved
    pure ⟨resolved, book, [⟨.info, "excelauto.mcp.sheet_ops",
      "Wrote " ++ toString r.cellCount ++ " cell(s) to " ++ r.sheet ++ "!" ++
        (r.rectangle h).name ++ " in " ++ resolved.text ++ "."⟩]⟩
  else throw .noValues

/-- The first step of a batch that the file engine carries out. -/
def prepareBatch (policy : Option PathPolicy) (r : SetCellsRequest) : Action Draft := do
  let (resolved, _) ← beginBatch policy r
  let parts := Instruction.partition r.instructions
  let book ← load resolved
  let sheet ← ofExcept .title (book.sheet r.sheet)
  let (outcome, edited) :=
    ((CellEdit.applyAll (Sheet.updater r.autoFormula) parts.edits).run.run sheet)
  let applied ← resume outcome
  pure ⟨resolved, book.setSheet r.sheet edited,
    [⟨.info, "excelauto.mcp.backend.openpyxl_backend",
        "Saved workbook via openpyxl: " ++ resolved.text⟩,
      ⟨.info, Instruction.batchLogger,
        "Applied " ++ toString applied.length ++ " cell instruction(s) to sheet '" ++ r.sheet ++
          "' (" ++ toString parts.skipped.length ++ " skipped)."⟩]⟩

/-- The first step of a call: everything up to the workbook as it has been edited in memory. -/
def FileEdit.prepare (policy : Option PathPolicy) : FileEdit → Action Draft
  | .block r => prepareBlock policy r
  | .batch r => prepareBatch policy r

/-- Writes records to the log, one by one. -/
def reportEach : List LogRecord → Action Unit
  | [] => pure ()
  | record :: rest => do
    report [record]
    reportEach rest

/-- The second step of a call: the workbook is saved, whatever has become of its file. -/
def Draft.complete (d : Draft) : Action Unit := do
  save d.path d.book
  reportEach d.records

theorem writeRange_eq_steps (policy : Option PathPolicy) (r : WriteRangeRequest) :
    (do let _ ← writeRange policy r) = prepareBlock policy r >>= Draft.complete := by
  unfold writeRange prepareBlock
  rw [bind_assoc, bind_assoc]
  congr 1
  funext resolved
  split
  · simp only [bind_assoc, pure_bind, Draft.complete, reportEach, inform]
  · rfl

theorem setCells_eq_steps {r : SetCellsRequest} (hengine : (FileEdit.batch r).UsesFiles w.excel) :
    result (do let _ ← setCells policy r) w = result (prepareBatch policy r >>= Draft.complete) w := by
  unfold prepareBatch
  rw [setCells_eq, bind_assoc, bind_assoc, result_bind, result_bind]
  cases hbegin : result (beginBatch policy r) w with
  | mk outcome start =>
    cases outcome with
    | error e => rfl
    | ok begun =>
      obtain ⟨resolved, excel, engine⟩ := begun
      obtain ⟨-, -, hexcel, hselect, -⟩ := beginBatch_ok.mp hbegin
      obtain rfl := engine_eq_file hengine hexcel hselect
      simp only [finishBatch, editBatch, edit, editFile, bind_assoc, pure_bind]
      refine congrArg (fun x => result x start) (bind_congr fun book => bind_congr fun sheet => ?_)
      obtain ⟨outcome, edited⟩ := (CellEdit.applyAll (Sheet.updater r.autoFormula)
        (Instruction.partition r.instructions).edits).run.run sheet
      simp only [bind_assoc, pure_bind, Draft.complete, reportEach, inform]

/-- A call that the file engine carries out is its two steps, one right after the other. -/
theorem FileEdit.run_eq_steps {edit : FileEdit} (hengine : edit.UsesFiles w.excel) :
    result (edit.run policy) w = result (edit.prepare policy >>= Draft.complete) w := by
  cases edit with
  | block r => exact congrArg (fun x => result x w) (writeRange_eq_steps policy r)
  | batch r => exact setCells_eq_steps hengine

/-! ## What the steps leave as it was -/

/-- The same directories, files and links, the same log and the same setup of Excel. -/
structure SameSetting (w w' : Workspace) : Prop where
  shape : SameShape w.files w'.files
  logFile_eq : w'.logFile = w.logFile
  setup_eq : w'.excel.setup = w.excel.setup

namespace SameSetting

theorem refl (w : Workspace) : SameSetting w w := ⟨SameShape.refl _, rfl, rfl⟩

theorem symm (h : SameSetting w w') : SameSetting w' w :=
  ⟨h.shape.symm, h.logFile_eq.symm, h.setup_eq.symm⟩

theorem trans (h : SameSetting w w') (h' : SameSetting w' w'') : SameSetting w w'' :=
  ⟨h.shape.trans h'.shape, h'.logFile_eq.trans h.logFile_eq, h'.setup_eq.trans h.setup_eq⟩

theorem existing_eq (h : SameSetting w w') (policy : Option PathPolicy) (p : Path) :
    existing policy w'.files p = existing policy w.files p :=
  existing_of_sameShape h.shape policy p

theorem logElsewhere (h : SameSetting w w') (hlog : LogElsewhere p w) : LogElsewhere p w' :=
  fun f hf hlead => hlog f (h.logFile_eq ▸ hf) (h.shape.symm.leadsTo hlead)

end SameSetting

/-- The setting is the same, and so is what is read from the path, unless the log grows there. -/
structure Spares (p : Path) (w w' : Workspace) : Prop where
  setting : SameSetting w w'
  read_eq : LogElsewhere p w → w'.files.read p = w.files.read p

theorem Spares.refl (p : Path) (w : Workspace) : Spares p w w :=
  ⟨SameSetting.refl w, fun _ => rfl⟩

theorem Spares.trans (h : Spares p w w') (h' : Spares p w' w'') : Spares p w w'' :=
  ⟨h.setting.trans h'.setting,
    fun hlog => (h'.read_eq (h.setting.logElsewhere hlog)).trans (h.read_eq hlog)⟩

theorem Spares.loaded_eq (h : Spares p w w') (hlog : LogElsewhere p w) :
    loaded p w'.files = loaded p w.files := by
  rw [loaded, loaded, h.read_eq hlog]

theorem spares_report (p : Path) (records : List LogRecord) (w : Workspace) :
    Spares p w (result (report records) w).2 :=
  ⟨⟨(OnlyLogs.report records w).sameShape, rfl, rfl⟩, (OnlyLogs.report records w).read_eq⟩

theorem reportEach_ok (p : Path) (records : List LogRecord) (w : Workspace) :
    ∃ w', result (reportEach records) w = (.ok (), w') ∧ Spares p w w' := by
  induction records generalizing w with
  | nil => exact ⟨w, rfl, Spares.refl p w⟩
  | cons record rest ih =>
    obtain ⟨w', hrest, hspares⟩ := ih (result (report [record]) w).2
    refine ⟨w', ?_, (spares_report p [record] w).trans hspares⟩
    rw [reportEach, result_bind]
    exact hrest

/-! ## The first step -/

/-- The sheet that the call edits. -/
def FileEdit.sheet : FileEdit → String
  | .block r => r.sheet
  | .batch r => r.sheet

/-- What the call makes of its sheet in memory. -/
def FileEdit.EditsSheet : FileEdit → Sheet → Sheet → Prop
  | .block r, s, s' =>
    s.writeBlock r.autoFormula r.firstColumn.val r.firstRow.val r.values.val = (.ok (), s')
  | .batch r, s, s' =>
    ∃ applied, result (CellEdit.applyAll (Sheet.updater r.autoFormula)
      (Instruction.partition r.instructions).edits) s = (.ok applied, s')

/-- What the call makes of a workbook in memory. -/
def FileEdit.Revises (edit : FileEdit) (book book' : Workbook) : Prop :=
  ∃ s s', book.sheet edit.sheet = .ok s ∧ edit.EditsSheet s s' ∧
    book' = book.setSheet edit.sheet s'

/-- The file engine carries out the call whenever Excel has this setup. -/
def FileEdit.AlwaysUsesFiles (setup : ExcelSetup) (edit : FileEdit) : Prop :=
  ∀ x : Excel, x.setup = setup → edit.UsesFiles x

theorem prepareBlock_ok {r : WriteRangeRequest} {d : Draft}
    (h : result (prepareBlock policy r) w = (.ok d, w')) :
    existing policy w.files r.path = .ok d.path ∧ 1 ≤ r.width ∧ w' = w ∧
      ∃ book, loaded d.path w.files = .ok book ∧ (FileEdit.block r).Revises book d.book := by
  unfold prepareBlock at h
  obtain ⟨resolved, next, hexisting, h⟩ := bind_ok.mp h
  rw [result_existingWorkbook] at hexisting
  obtain ⟨hfound, rfl⟩ := Prod.mk.inj hexisting
  split at h
  · next hwidth =>
    obtain ⟨edited, loadedState, hwritten, hend⟩ := bind_ok.mp h
    cases hend
    obtain ⟨rfl, book, sheet, written, hload, hsheet, hblock, rfl⟩ := blockWritten_ok hwritten
    exact ⟨hfound, hwidth, rfl, book, hload, sheet, written, hsheet, hblock, rfl⟩
  · cases h

theorem prepareBlock_of {r : WriteRangeRequest} {book book' : Workbook}
    (hfound : existing policy w.files r.path = .ok p) (hwidth : 1 ≤ r.width)
    (hload : loaded p w.files = .ok book) (hrevises : (FileEdit.block r).Revises book book') :
    ∃ d, result (prepareBlock policy r) w = (.ok d, w) ∧ d.path = p ∧ d.book = book' := by
  obtain ⟨sheet, written, hsheet, hblock, rfl⟩ := hrevises
  have hsheet : book.sheet r.sheet = .ok sheet := hsheet
  have hblock : sheet.writeBlock r.autoFormula r.firstColumn.val r.firstRow.val r.values.val =
      (.ok (), written) := hblock
  unfold prepareBlock blockWritten
  rw [result_bind, result_existingWorkbook, hfound]
  simp only [dif_pos hwidth, result_bind, result_load, hload, result_ofExcept, hsheet, hblock,
    mapError_ok, result_pure]
  exact ⟨_, rfl, rfl, rfl⟩

theorem prepareBatch_ok {r : SetCellsRequest} {d : Draft}
    (h : result (prepareBatch policy r) w = (.ok d, w')) :
    ∃ excel engine, result (beginBatch policy r) w = (.ok (d.path, excel, engine), w') ∧
      ∃ book, loaded d.path w'.files = .ok book ∧ (FileEdit.batch r).Revises book d.book := by
  unfold prepareBatch at h
  obtain ⟨⟨resolved, excel, engine⟩, start, hbegin, h⟩ := bind_ok.mp h
  obtain ⟨book, loadedState, hloaded, h⟩ := bind_ok.mp h
  rw [result_load] at hloaded
  obtain ⟨hload, rfl⟩ := Prod.mk.inj hloaded
  obtain ⟨sheet, hsheet, h⟩ := ofExcept_bind_ok.mp h
  cases hbody : result (CellEdit.applyAll (Sheet.updater r.autoFormula)
      (Instruction.partition r.instructions).edits) sheet with
  | mk outcome edited =>
    have hrun : (CellEdit.applyAll (Sheet.updater r.autoFormula)
        (Instruction.partition r.instructions).edits).run.run sheet = (outcome, edited) := hbody
    simp only [hrun] at h
    obtain ⟨applied, rfl, hend⟩ := ofExcept_bind_ok.mp h
    cases hend
    exact ⟨excel, engine, hbegin, book, hload, sheet, edited, hsheet, ⟨applied, hbody⟩, rfl⟩

theorem prepareBatch_of {r : SetCellsRequest} {excel : Availability} {engine : Engine}
    {book book' : Workbook}
    (hbegin : result (beginBatch policy r) w = (.ok (p, excel, engine), w'))
    (hload : loaded p w'.files = .ok book) (hrevises : (FileEdit.batch r).Revises book book') :
    ∃ d, result (prepareBatch policy r) w = (.ok d, w') ∧ d.path = p ∧ d.book = book' := by
  obtain ⟨sheet, edited, hsheet, ⟨applied, hbody⟩, rfl⟩ := hrevises
  have hsheet : book.sheet r.sheet = .ok sheet := hsheet
  have hrun : (CellEdit.applyAll (Sheet.updater r.autoFormula)
      (Instruction.partition r.instructions).edits).run.run sheet = (.ok applied, edited) := hbody
  unfold prepareBatch resume
  rw [result_bind, hbegin]
  simp only [result_bind, result_load, hload, result_ofExcept, hsheet, mapError_ok, hrun,
    result_pure]
  exact ⟨_, rfl, rfl, rfl⟩

theorem beginBatch_spares {r : SetCellsRequest} {excel : Availability} {engine : Engine}
    (q : Path) (h : result (beginBatch policy r) w = (.ok (p, excel, engine), w')) :
    Spares q w w' := by
  obtain ⟨-, -, -, -, rfl⟩ := beginBatch_ok.mp h
  have hprobed : Spares q w { w with excel := (result Excel.availability w.excel).2 } :=
    ⟨⟨SameShape.refl _, rfl, Excel.setup_availability w.excel⟩, fun _ => rfl⟩
  exact hprobed.trans (spares_report q _ _)

theorem existing_of_prepare {edit : FileEdit} {d : Draft}
    (h : result (edit.prepare policy) w = (.ok d, w')) :
    existing policy w.files edit.path = .ok d.path := by
  cases edit with
  | block r => exact (prepareBlock_ok h).1
  | batch r =>
    obtain ⟨excel, engine, hbegin, -⟩ := prepareBatch_ok h
    exact (beginBatch_ok.mp hbegin).1

/-- The first step loads the workbook that is found under the path of the call and edits it. -/
theorem prepare_ok {edit : FileEdit} {d : Draft} (h : result (edit.prepare policy) w = (.ok d, w'))
    (hlog : LogElsewhere d.path w) :
    Spares d.path w w' ∧ ∃ book, loaded d.path w.files = .ok book ∧ edit.Revises book d.book := by
  cases edit with
  | block r =>
    obtain ⟨-, -, rfl, book, hload, hrevises⟩ := prepareBlock_ok h
    exact ⟨Spares.refl _ _, book, hload, hrevises⟩
  | batch r =>
    obtain ⟨excel, engine, hbegin, book, hload, hrevises⟩ := prepareBatch_ok h
    have hspares := beginBatch_spares d.path hbegin
    rw [hspares.loaded_eq hlog] at hload
    exact ⟨hspares, book, hload, hrevises⟩

/-- A first step that has succeeded once succeeds again in the same setting, if there is a workbook
on which the call can be carried out. -/
theorem prepare_of {edit : FileEdit} {d : Draft} {x : Workspace} {book book' : Workbook}
    (h : result (edit.prepare policy) w = (.ok d, w')) (hsetting : SameSetting w x)
    (hengine : edit.AlwaysUsesFiles w.excel.setup) (hlog : LogElsewhere d.path x)
    (hload : loaded d.path x.files = .ok book) (hrevises : edit.Revises book book') :
    ∃ d' x', result (edit.prepare policy) x = (.ok d', x') ∧ d'.path = d.path ∧ d'.book = book' := by
  cases edit with
  | block r =>
    obtain ⟨hfound, hwidth, -⟩ := prepareBlock_ok h
    rw [← hsetting.existing_eq] at hfound
    obtain ⟨d', hprepare, hpath, hbook⟩ := prepareBlock_of hfound hwidth hload hrevises
    exact ⟨d', x, hprepare, hpath, hbook⟩
  | batch r =>
    obtain ⟨excel, engine, hbegin, -⟩ := prepareBatch_ok h
    obtain ⟨hfound, hcheck, hexcel, hselect, -⟩ := beginBatch_ok.mp hbegin
    rw [← hsetting.existing_eq] at hfound
    obtain ⟨a, ha⟩ := Excel.availability_of_setup hsetting.setup_eq hexcel
    have hchosen : r.engine.select d.path a.available = .ok engine := by
      rcases hengine w.excel rfl with hfile | ⟨-, hnone⟩
      · rw [hfile] at hselect ⊢
        exact hselect
      · rcases hengine x.excel hsetting.setup_eq with hfile | ⟨-, hnoneAgain⟩
        · rw [hfile] at hselect ⊢
          exact hselect
        · rwa [hnoneAgain a ha, ← hnone excel hexcel]
    have hagain := beginBatch_ok.mpr ⟨hfound, hcheck, ha, hchosen, rfl⟩
    have hloadAgain := (beginBatch_spares d.path hagain).loaded_eq hlog
    obtain ⟨d', hprepare, hpath, hbook⟩ :=
      prepareBatch_of hagain (hloadAgain.trans hload) hrevises
    exact ⟨d', _, hprepare, hpath, hbook⟩

/-! ## The second step -/

/-- The second step puts the draft in the place of whatever is in the file. -/
theorem complete_ok {d : Draft} {content : Content} (h : result d.complete w = (.ok (), w'))
    (hread : w.files.read d.path = .ok content) (hlog : LogElsewhere d.path w) :
    ∃ kept place, d.book.stored = .ok kept ∧ w.files.writeTarget d.path = .ok place ∧
      SameSetting w w' ∧ w'.files.read d.path = .ok (.workbook kept) := by
  obtain ⟨_, saved, hsave, hreports⟩ := bind_ok.mp h
  obtain ⟨place, kept, hplace, hstored, rfl⟩ := save_ok hsave
  obtain ⟨last, hlast, hspares⟩ := reportEach_ok d.path d.records
    { w with files := w.files.set place (.file (.workbook kept)) }
  obtain rfl : last = w' := (Prod.mk.inj (hlast.symm.trans hreports)).2
  have hsetting : SameSetting w { w with files := w.files.set place (.file (.workbook kept)) } :=
    ⟨SameShape.set_file (entryAt_target hread hplace) _, rfl, rfl⟩
  refine ⟨kept, place, hstored, hplace, hsetting.trans hspares.setting, ?_⟩
  rw [hspares.read_eq (hsetting.logElsewhere hlog)]
  exact read_set_target hread hplace _

theorem complete_of {d : Draft} {place : Location} {kept : StoredWorkbook}
    (hplace : w.files.writeTarget d.path = .ok place) (hstored : d.book.stored = .ok kept) :
    ∃ w', result d.complete w = (.ok (), w') := by
  obtain ⟨w', hreports, -⟩ := reportEach_ok d.path d.records
    { w with files := w.files.set place (.file (.workbook kept)) }
  refine ⟨w', bind_ok.mpr ⟨(), _, ?_, hreports⟩⟩
  rw [result_save, hplace]
  simp only [written, hstored]

end WorkbookTools.Workspace
