import WorkbookTools.Proofs.Excel.Availability
import WorkbookTools.Proofs.Outcomes
import WorkbookTools.Proofs.Workspace.Batches
import WorkbookTools.Proofs.Workspace.FailedEdits

/-!
# What Excel means to the file engine

A batch finds out whether Excel can be used before it looks at the engine that it is asked for. The
file engine has no use for the answer. All that the surroundings can do to it is that there is no
answer: the library of Excel is there and fails.

* `UsesFilesOnly`: actions that neither look at Excel nor change it, and have none of its failures.
* `result_setCells_answered`, `result_setCells_unanswered`: a batch of the file engine, with and
  without an answer about Excel.

Main statement: `file_engine_ignores_excel_iff`.
-/

namespace WorkbookTools

open WorkbookTools.Action

/-! ## Errors -/

/-- The error is none that comes from outside. -/
def Error.IsOwn (e : Error) : Prop := ∀ f, e ≠ .fault f

namespace Workspace

theorem isOwn_failure {cause : Error} (h : cause.IsOwn) (e : CellEdit) :
    (e.failure cause).IsOwn := by
  unfold CellEdit.failure
  split
  · exact nofun
  · exact h

theorem isOwn_applyAll (autoFormula : Bool) (edits : List CellEdit) :
    FailsWith Error.IsOwn (CellEdit.applyAll (Sheet.updater autoFormula) edits) := by
  induction edits with
  | nil => exact FailsWith.pure []
  | cons e rest ih =>
    have hfirst : FailsWith Error.IsOwn (e.apply (Sheet.updater autoFormula)) := by
      intro s cause s' hcause
      obtain ⟨refusal, rfl, -⟩ := apply_error hcause
      exact nofun
    refine FailsWith.bind ?_ fun first => FailsWith.bind ih fun others => FailsWith.pure _
    exact FailsWith.tryCatch hfirst fun cause hcause => FailsWith.throw (isOwn_failure hcause e)

theorem isOwn_loaded {p : Path} {files : FileSystem Content} {e : Error}
    (h : loaded p files = .error e) : e.IsOwn := by
  rcases loaded_failure h with ⟨_, rfl⟩ | ⟨_, rfl⟩ <;> exact nofun

/-! ## Actions without Excel -/

variable {α β : Type}

/-- The workspace on a computer where Excel is as given. -/
def onComputer (w : Workspace) (excel : Excel) : Workspace := { w with excel }

@[simp] theorem files_onComputer (w : Workspace) (excel : Excel) :
    (w.onComputer excel).files = w.files := rfl

@[simp] theorem onComputer_onComputer (w : Workspace) (excel other : Excel) :
    (w.onComputer excel).onComputer other = w.onComputer other := rfl

theorem result_withExcel_onComputer (action : ExcelAction α) (w : Workspace) (x : Excel) :
    result (withExcel action) (w.onComputer x) =
      ((result action x).1.mapError .fault, w.onComputer (result action x).2) :=
  result_withExcel action (w.onComputer x)

/-- The action does the same whatever Excel is like, leaves Excel as it is, and has errors of its
own only. -/
structure UsesFilesOnly (x : Action α) : Prop where
  ignores : ∀ (w : Workspace) (excel : Excel),
    result x (w.onComputer excel) = ((result x w).1, (result x w).2.onComputer excel)
  isOwn : FailsWith Error.IsOwn x

namespace UsesFilesOnly

theorem pure (a : α) : UsesFilesOnly (Pure.pure a : Action α) :=
  ⟨fun _ _ => rfl, FailsWith.pure a⟩

theorem throw {e : Error} (h : e.IsOwn) : UsesFilesOnly (MonadExcept.throw e : Action α) :=
  ⟨fun _ _ => rfl, FailsWith.throw h⟩

theorem bind {x : Action α} {f : α → Action β} (hx : UsesFilesOnly x)
    (hf : ∀ a, UsesFilesOnly (f a)) : UsesFilesOnly (x >>= f) := by
  refine ⟨fun w excel => ?_, FailsWith.bind hx.isOwn fun a => (hf a).isOwn⟩
  rw [result_bind, result_bind, hx.ignores]
  cases result x w with
  | mk outcome next =>
    cases outcome with
    | error e => rfl
    | ok a => exact (hf a).ignores next excel

theorem ofExcept {ε : Type} {wrap : ε → Error} {x : Except ε α}
    (h : ∀ e, x = .error e → (wrap e).IsOwn) : UsesFilesOnly (ofExcept wrap x) := by
  cases x with
  | ok a => exact pure a
  | error e => exact throw (h e rfl)

theorem report (records : List LogRecord) : UsesFilesOnly (Workspace.report records) := by
  refine ⟨fun _ _ => rfl, fun w e w' he => ?_⟩
  rw [result_report] at he
  cases he

theorem inform (logger message : String) : UsesFilesOnly (Workspace.inform logger message) :=
  report _

theorem load (p : Path) : UsesFilesOnly (Workspace.load p) := by
  refine ⟨fun w excel => ?_, fun w e w' he => ?_⟩
  · rw [result_load, result_load, files_onComputer]
  · rw [result_load] at he
    exact isOwn_loaded (Prod.mk.inj he).1

theorem save (p : Path) (book : Workbook) : UsesFilesOnly (Workspace.save p book) := by
  constructor
  · intro w excel
    rw [result_save, result_save, files_onComputer]
    cases w.files.writeTarget p <;> rfl
  · intro w e w' he
    rw [result_save] at he
    split at he
    · cases he
      exact nofun
    · unfold written at he
      split at he <;> cases he
      exact nofun

/-- The file engine does not use Excel. -/
theorem editFile (autoFormula : Bool) (p : Path) (title : String) (edits : List CellEdit) :
    UsesFilesOnly (Workspace.editFile autoFormula p title fun update =>
      CellEdit.applyAll update edits) := by
  refine bind (load p) fun book => bind (ofExcept fun _ _ => nofun) fun sheet => ?_
  refine bind (ofExcept fun e he => ?_) fun applied => ?_
  · exact isOwn_applyAll autoFormula edits sheet e _ (result_eq he)
  · exact bind (save p _) fun _ => bind (inform _ _) fun _ => pure applied

end UsesFilesOnly

/-! ## Batches -/

variable {policy : Option PathPolicy} {r : SetCellsRequest} {w : Workspace} {p : Path} {x : Excel}
  {f : Fault}

/-- What the file engine does for a batch after the question about Excel. -/
def fileBatch (r : SetCellsRequest) (p : Path) : Action SetCellsResult :=
  if p.extension = oldExtension then throw (.engine .fileEngineOnOldWorkbook)
  else do
    report (Instruction.partitionRecords r.instructions)
    finishBatch r p ⟨false, none⟩ .file

theorem usesFilesOnly_fileBatch (r : SetCellsRequest) (p : Path) :
    UsesFilesOnly (fileBatch r p) := by
  unfold fileBatch
  split
  · exact .throw nofun
  · refine .bind (.report _) fun _ => .bind (.editFile _ _ _ _) fun applied => ?_
    exact .bind (.inform _ _) fun _ => .pure _

/-- A batch that asks for the file engine makes no use of the answer about Excel. -/
theorem setCells_eq_fileBatch (policy : Option PathPolicy) (hengine : r.engine = .only .file) :
    setCells policy r = (do
      let p ← existingWorkbook policy r.path
      ofExcept .format (checkExtension p)
      let _ ← withExcel Excel.availability
      fileBatch r p) := by
  simp only [setCells_eq, beginBatch, bind_assoc, pure_bind]
  refine bind_congr fun p => bind_congr fun _ => bind_congr fun excel => ?_
  have hselect : r.engine.select p excel.available =
      if p.extension = oldExtension then .error .fileEngineOnOldWorkbook else .ok .file := by
    rw [hengine]
    rfl
  have hfinish : finishBatch r p excel .file = finishBatch r p ⟨false, none⟩ .file := by
    simp only [finishBatch, answerOf, hengine, engineWarnings]
  rw [hselect, fileBatch]
  split
  · rfl
  · rw [← hfinish]
    rfl

/-- A batch that is refused before the question about Excel is refused whatever Excel is like. -/
theorem result_setCells_unasked (hengine : r.engine = .only .file)
    (hunasked : ∀ p, existing policy w.files r.path = .ok p → checkExtension p ≠ .ok ()) :
    ∃ e, ∀ x, result (setCells policy r) (w.onComputer x) = (.error e, w.onComputer x) := by
  simp only [setCells_eq_fileBatch policy hengine, result_bind, result_existingWorkbook,
    files_onComputer]
  cases hfound : existing policy w.files r.path with
  | error e => exact ⟨e, fun _ => rfl⟩
  | ok p =>
    simp only [result_ofExcept]
    cases hcheck : checkExtension p with
    | ok _ => exact absurd hcheck (hunasked p hfound)
    | error e => exact ⟨.format e, fun _ => rfl⟩

/-- The batch asks about Excel, and goes on without Excel if there is an answer. -/
theorem result_setCells_asked (hengine : r.engine = .only .file)
    (hfound : existing policy w.files r.path = .ok p) (hcheck : checkExtension p = .ok ())
    (x : Excel) :
    result (setCells policy r) (w.onComputer x) =
      match result Excel.availability x with
      | (.error f, last) => (.error (.fault f), w.onComputer last)
      | (.ok _, last) => result (fileBatch r p) (w.onComputer last) := by
  rw [setCells_eq_fileBatch policy hengine, result_bind, result_existingWorkbook,
    files_onComputer, hfound]
  simp only [result_ofExcept_bind, hcheck]
  rw [result_bind, result_withExcel_onComputer]
  cases result Excel.availability x with
  | mk outcome last => cases outcome <;> rfl

/-- Without an answer about Excel the batch fails, and nothing has changed. -/
theorem result_setCells_unanswered (hengine : r.engine = .only .file)
    (hfound : existing policy w.files r.path = .ok p) (hcheck : checkExtension p = .ok ())
    (hbroken : x.brokenLibrary? = some f) :
    result (setCells policy r) (w.onComputer x) = (.error (.fault f), w.onComputer x) := by
  rw [result_setCells_asked hengine hfound hcheck, Excel.availability_of_broken hbroken]

/-- With an answer about Excel the batch is what the file engine makes of it. -/
theorem result_setCells_answered (hengine : r.engine = .only .file)
    (hfound : existing policy w.files r.path = .ok p) (hcheck : checkExtension p = .ok ())
    (hanswers : x.brokenLibrary? = none) :
    ∃ last, result (setCells policy r) (w.onComputer x) =
      ((result (fileBatch r p) w).1, (result (fileBatch r p) w).2.onComputer last) := by
  obtain ⟨a, ha⟩ := Excel.availability_of_not_broken hanswers
  refine ⟨(result Excel.availability x).2, ?_⟩
  rw [result_setCells_asked hengine hfound hcheck, result_eq ha]
  exact (usesFilesOnly_fileBatch r p).ignores w _

/-- The outcomes of a batch, and what it leaves besides Excel, are the same on two computers if the
library is broken on neither of them or in the same way on both. -/
theorem runs_agree_iff (hengine : r.engine = .only .file)
    (hfound : existing policy w.files r.path = .ok p) (hcheck : checkExtension p = .ok ())
    (x y : Excel) :
    let run (excel : Excel) := result (setCells policy r) (w.onComputer excel)
    ((run x).1 = (run y).1 ∧ (run x).2.onComputer w.excel = (run y).2.onComputer w.excel) ↔
      x.brokenLibrary? = y.brokenLibrary? := by
  intro run
  have hfails : ∀ {e f}, e.brokenLibrary? = some f →
      run e = (.error (.fault f), w.onComputer e) :=
    fun h => result_setCells_unanswered hengine hfound hcheck h
  have hworks : ∀ {e}, e.brokenLibrary? = none → ∃ last, run e =
      ((result (fileBatch r p) w).1, (result (fileBatch r p) w).2.onComputer last) :=
    fun h => result_setCells_answered hengine hfound hcheck h
  -- The failure of a library is told apart from whatever the file engine gives.
  have hown : ∀ f, (result (fileBatch r p) w).1 ≠ .error (.fault f) := fun f h =>
    (usesFilesOnly_fileBatch r p).isOwn w _ _ (result_eq h) f rfl
  cases hx : x.brokenLibrary? with
  | none =>
    obtain ⟨last, hrun⟩ := hworks hx
    rw [hrun]
    cases hy : y.brokenLibrary? with
    | none =>
      obtain ⟨last', hrun'⟩ := hworks hy
      rw [hrun']
      exact ⟨fun _ => rfl, fun _ => ⟨rfl, rfl⟩⟩
    | some g =>
      rw [hfails hy]
      exact ⟨fun h => absurd h.1 (hown g), nofun⟩
  | some f =>
    rw [hfails hx]
    cases hy : y.brokenLibrary? with
    | none =>
      obtain ⟨last', hrun'⟩ := hworks hy
      rw [hrun']
      exact ⟨fun h => absurd h.1.symm (hown f), nofun⟩
    | some g =>
      rw [hfails hy]
      simp

/-- For a batch that asks for the file engine, two computers make no difference to its outcome and
to the files, the log and the session that it leaves, if and only if the question about Excel is not
reached or its library is broken in the same way on both. Finding out about Excel fails exactly if
the library is broken, and then the batch fails with it and leaves everything as it was. -/
theorem file_engine_ignores_excel_iff (policy : Option PathPolicy) (r : SetCellsRequest)
    (w : Workspace) (x y : Excel) (hengine : r.engine = .only .file) :
    let run (excel : Excel) := result (setCells policy r) (w.onComputer excel)
    let asked := ∃ p, (result (existingWorkbook policy r.path) w).1 = .ok p ∧
      checkExtension p = .ok ()
    (((run x).1 = (run y).1 ∧ (run x).2.onComputer w.excel = (run y).2.onComputer w.excel) ↔
      (asked → x.brokenLibrary? = y.brokenLibrary?)) ∧
    (∀ f, (result Excel.availability x).1 = .error f ↔ x.brokenLibrary? = some f) ∧
    ∀ f, asked → x.brokenLibrary? = some f → run x = (.error (.fault f), w.onComputer x) := by
  intro run asked
  have hexisting : (result (existingWorkbook policy r.path) w).1 = existing policy w.files r.path :=
    congrArg Prod.fst (result_existingWorkbook policy r.path w)
  refine ⟨?_, fun f => Excel.availability_error_iff, ?_⟩
  · by_cases hasked : asked
    · obtain ⟨p, hfound, hcheck⟩ := hasked
      have hagree := runs_agree_iff hengine (hexisting.symm.trans hfound) hcheck x y
      exact hagree.trans ⟨fun hsame _ => hsame, fun hsame => hsame ⟨p, hfound, hcheck⟩⟩
    · obtain ⟨e, hrun⟩ : ∃ e, ∀ excel, run excel = (.error e, w.onComputer excel) :=
        result_setCells_unasked hengine fun p hfound hcheck =>
          hasked ⟨p, hexisting.trans hfound, hcheck⟩
      rw [hrun, hrun]
      exact ⟨fun _ h => absurd h hasked, fun _ => ⟨rfl, rfl⟩⟩
  · rintro f ⟨p, hfound, hcheck⟩ hbroken
    exact result_setCells_unanswered hengine (hexisting.symm.trans hfound) hcheck hbroken

/-! ## Three computers -/

/-- The request for one edit of the workbook of `keptWorkspace` by the file engine. -/
def fileRequest : SetCellsRequest :=
  ⟨Path.ofText "/book.xlsx", "Sheet1", ["'a'@A1"], .only .file, false⟩

/-- A computer where the library of Excel fails in this way, or no instance starts. -/
def troubledExcel (library : Option Fault) : Excel :=
  .ofSetup { ExcelSetup.absent with
    platform := "win32"
    libraryFault := library
    startFaults := [some ⟨.other, "com_error", "Class not registered."⟩] }

/-- An instance that does not start makes no difference. -/
theorem instance_that_fails_makes_no_difference :
    let run (excel : Excel) := result (setCells none fileRequest) (keptWorkspace.onComputer excel)
    ((run (.ofSetup .absent)).1 = (run (troubledExcel none)).1 ∧
        (run (.ofSetup .absent)).2.onComputer keptWorkspace.excel =
          (run (troubledExcel none)).2.onComputer keptWorkspace.excel) ∧
      (run (troubledExcel none)).1.isOk = true := by
  intro run
  obtain ⟨hruns, -⟩ := file_engine_ignores_excel_iff none fileRequest keptWorkspace
    (.ofSetup .absent) (troubledExcel none) rfl
  exact ⟨hruns.mpr fun _ => rfl, by decide +kernel⟩

/-- A library that is there and fails makes the same batch fail, which succeeds without Excel. -/
theorem broken_library_stops_file_engine :
    let f : Fault := ⟨.other, "RuntimeError", "Interpreter is too old."⟩
    let run (excel : Excel) := result (setCells none fileRequest) (keptWorkspace.onComputer excel)
    (run (.ofSetup .absent)).1.isOk = true ∧
      (run (troubledExcel (some f))).1 = .error (.fault f) ∧
      (result Excel.availability (troubledExcel (some f))).1 = .error f := by
  intro f run
  exact ⟨by decide +kernel, by decide +kernel, by decide +kernel⟩

end Workspace

end WorkbookTools
