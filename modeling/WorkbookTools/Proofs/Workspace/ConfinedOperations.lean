import WorkbookTools.Batch
import WorkbookTools.Opening
import WorkbookTools.Proofs.Excel.Opens
import WorkbookTools.Proofs.Workspace.Confinement
import WorkbookTools.Proofs.Workspace.Creating
import WorkbookTools.Range.Write

/-!
# Operations on workbooks are confined

Every operation is confined to the places to which its path leads: the path that was resolved, or
for a new workbook the destination that was chosen. So whatever the policy has checked is enough as
long as that path is the one that was checked, and leads where the check has seen it.

Main statements: `confinedRun_openWorkbook`, `confinedRun_createWorkbook`,
`confinedRun_readRange`, `confinedRun_writeRange`, `confinedRun_setCells`.
-/

namespace WorkbookTools.Workspace

open WorkbookTools.Action FileSystem

variable {α : Type} {P : Location → Prop} {w : Workspace} {p : Path}

/-! ## Reading -/

theorem read_mapContents {fs : FileSystem Content} {g : Location → Content → Content}
    (hg : ∀ place, LeadsTo fs p place → ∀ content, g place content = content) :
    (fs.mapContents g).read p = fs.read p := by
  unfold FileSystem.read
  rw [locate_mapContents]
  cases hlocate : fs.locate .look p with
  | found place e =>
    have hlead : LeadsTo fs p place := ⟨.look, by simp, by rw [hlocate, Located.end?]⟩
    cases e with
    | file content => simp [Located.map, Entry.map, hg place hlead]
    | _ => rfl
  | absent place => rfl
  | failed fault => rfl

theorem read_of_shows {g : Location → Content → Content} (hw : LeadsWithin P w.files p)
    (hg : Shows P w.logFile g) : (w.files.mapContents g).read p = w.files.read p :=
  read_mapContents fun place hplace content =>
    hg place content (.inl (hw place hplace.mayLeadTo))

theorem confines_openStored (p : Path) : Confines P p (openStored p) := by
  intro w hw
  refine ConfinedRun.of_reads (fun files => opened p (files.read p)) (result_openStored p)
    fun g hg => ?_
  rw [read_of_shows hw hg]

theorem confines_load (p : Path) : Confines P p (load p) := by
  intro w hw
  refine ConfinedRun.of_reads (loaded p) (result_load p) fun g hg => ?_
  rw [loaded, loaded, read_of_shows hw hg]

theorem existing_mapContents (policy : Option PathPolicy) (files : FileSystem Content)
    (g : Location → Content → Content) (p : Path) :
    existing policy (files.mapContents g) p = existing policy files p := by
  simp only [existing, PathPolicy.resolvePath_mapContents, pathExists_mapContents,
    isFile_mapContents]

theorem confinedRun_existingWorkbook (policy : Option PathPolicy) (p : Path) (w : Workspace) :
    ConfinedRun P (existingWorkbook policy p) w :=
  ConfinedRun.of_reads (fun files => existing policy files p) (result_existingWorkbook policy p)
    fun g _ => existing_mapContents policy w.files g p

/-! ## Writing -/

theorem confines_save (p : Path) (book : Workbook) : Confines P p (save p book) := by
  intro w hw
  cases htarget : w.files.writeTarget p with
  | error e =>
    constructor
    · rw [result_save, htarget]
      exact ConfinedChange.refl P w
    · intro g hg
      rw [result_save, result_save, htarget, mapContents, writeTarget_mapContents, htarget]
  | ok place =>
    obtain ⟨hlead, hold⟩ := writeTarget_ok htarget
    have hplace : P place := hw place hlead.mayLeadTo
    constructor
    · rw [result_save, htarget]
      refine ConfinedChange.of_files (growsTo_set_file hold _) fun other hother => ?_
      have hne : place ≠ other := by
        rintro rfl
        exact hother hplace
      rw [entryAt_set_of_ne hne]
      exact .same _
    · intro g hg
      have hset := set_mapContents (g := g) w.files place (.file (written book).1)
      rw [Entry.map, hg place _ (.inl hplace)] at hset
      rw [result_save, result_save, htarget, mapContents, writeTarget_mapContents, htarget]
      simp only [hset, mapContents]

theorem confines_ensureDirectory (q : Path) : Confines P p (ensureDirectory q) := by
  intro w hw
  have hadds := makeDirectories_adds q.parent.anchor q.parent.parts.reverse w.files
  constructor
  · rw [result_ensureDirectory]
    refine ConfinedChange.of_files hadds.growsTo fun place _ => ?_
    rcases hadds.2 place with hsame | ⟨hnone, hnew⟩
    · rw [hsame]
      exact .same _
    · rw [hnone, hnew]
      exact .newDirectory
  · intro g hg
    rw [result_ensureDirectory, result_ensureDirectory]
    simp only [mapContents, makeDirectories_mapContents]

theorem writeRecords_mapContents {g : Location → Content → Content} {f : LogFile}
    (hg : ∀ content, g f.place content = content) (records : List LogRecord)
    (files : FileSystem Content) :
    writeRecords f records (files.mapContents g) =
      (writeRecords f records files).mapContents g := by
  unfold writeRecords
  simp only
  rw [entryAt_mapContents]
  cases files.entryAt f.place with
  | none => rfl
  | some e =>
    cases e with
    | file content =>
      simp only [Option.map_some, Entry.map, hg]
      rw [← set_mapContents, Entry.map, hg]
    | _ => rfl

/-- The log grows in its own file. -/
theorem confinedRun_report (records : List LogRecord) (w : Workspace) :
    ConfinedRun P (report records) w := by
  cases hlog : w.logFile with
  | none =>
    constructor
    · rw [result_report, hlog]
      exact ⟨GrowsTo.refl w.files, fun _ _ => .same _, hlog.symm, OpensWithin.refl P _ _⟩
    · intro g hg
      rw [result_report, result_report, mapContents, hlog]
      rfl
  | some f =>
    constructor
    · rw [result_report, hlog]
      rcases writeRecords_cases f records w.files with hsame | ⟨content, more, hfile, hset⟩
      · simp only [hsame]
        exact ⟨GrowsTo.refl w.files, fun _ _ => .same _, hlog.symm, OpensWithin.refl P _ _⟩
      · simp only [hset]
        refine ⟨growsTo_set_file (takesFile_of_file hfile) _, fun place _ => ?_, hlog.symm,
          OpensWithin.refl P _ _⟩
        by_cases hplace : f.place = place
        · subst hplace
          rw [entryAt_set_self (takesFile_of_file hfile).ne_root, hfile]
          exact .logged f content more hlog rfl
        · rw [entryAt_set_of_ne hplace]
          exact .same _
    · intro g hg
      have hfixed : ∀ content, g f.place content = content :=
        fun content => hg f.place content (.inr ⟨f, hlog, rfl⟩)
      rw [result_report, result_report]
      simp only [mapContents, hlog, writeRecords_mapContents hfixed]

theorem confines_report (records : List LogRecord) : Confines P p (report records) :=
  fun w _ => confinedRun_report records w

theorem confines_inform (logger message : String) : Confines P p (inform logger message) :=
  confines_report _

theorem confines_of_excel {ε : Type} {x : Action α} {action : ExceptT ε (StateM Excel) α}
    (wrap : ε → Error)
    (hx : ∀ w, result x w =
      ((result action w.excel).1.mapError wrap, { w with excel := (result action w.excel).2 }))
    (haction : OpensOnly (p.text = ·) action) : Confines P p x := by
  intro w hw
  constructor
  · rw [hx]
    obtain ⟨events, hevents, hopen⟩ := haction.exists_events w.excel
    refine ⟨GrowsTo.refl w.files, fun _ _ => .same _, rfl, events, hevents, ?_⟩
    intro path readOnly hmem
    exact ⟨p, hopen path readOnly hmem, hw⟩
  · intro g hg
    rw [hx, hx]
    rfl

theorem confines_withExcel {action : ExcelAction α} (haction : OpensOnly (p.text = ·) action) :
    Confines P p (withExcel action) :=
  confines_of_excel .fault (result_withExcel action) haction

/-! ## Cleaning up -/

theorem confines_settle {x : Action α} (hx : Confines P p x) : Confines P p (settle x) :=
  Confines.tryCatch (Confines.map Except.ok hx) fun e => Confines.pure (Except.error e)

theorem confines_andFinally {x : Action α} {cleanup : Action Unit} (hx : Confines P p x)
    (hcleanup : Confines P p cleanup) : Confines P p (andFinally x cleanup) :=
  Confines.bind (confines_settle hx) fun outcome =>
    Confines.bind hcleanup fun _ => Confines.ofExcept id outcome

/-! ## Engines -/

theorem confines_editFile (autoFormula : Bool) (p : Path) (title : String) (body : EditBody α) :
    Confines P p (editFile autoFormula p title body) := by
  refine Confines.bind (confines_load p) fun book => ?_
  refine Confines.bind (Confines.ofExcept _ _) fun sheet => ?_
  refine Confines.bind (Confines.ofExcept id _) fun a => ?_
  refine Confines.bind (confines_save p _) fun _ => ?_
  exact Confines.bind (confines_inform _ _) fun _ => Confines.pure a

theorem confines_runInExcel {autoFormula : Bool} {sheet : String} {body : EditBody α}
    (hbody : OpensOnly (p.text = ·) (body (Excel.updater autoFormula sheet))) :
    Confines P p (runInExcel autoFormula sheet body) := by
  refine confines_of_excel id (fun w => ?_) hbody
  unfold runInExcel
  rw [result_get_bind]
  have hrun : (body (Excel.updater autoFormula sheet)).run.run w.excel =
      result (body (Excel.updater autoFormula sheet)) w.excel := rfl
  rw [hrun]
  cases result (body (Excel.updater autoFormula sheet)) w.excel with
  | mk outcome excel => cases outcome <;> rfl

theorem confines_editInExcel {autoFormula : Bool} {title : String} (body : EditBody α)
    (hbody : OpensOnly (p.text = ·) (body (Excel.updater autoFormula title))) :
    Confines P p (editInExcel autoFormula p title body) := by
  have hbook : Confines P p (editOpenBook autoFormula p title body) := by
    refine Confines.bind (confines_withExcel Excel.opensOnly_sheetNames) fun names => ?_
    refine Confines.ite ?_ (Confines.bind (Confines.throw _) fun _ => ?_)
    all_goals
      refine Confines.bind (confines_runInExcel hbody) fun a => ?_
      refine Confines.bind (confines_withExcel Excel.opensOnly_saveBook) fun _ => ?_
      exact Confines.bind (confines_inform _ _) fun _ => Confines.pure a
  unfold editInExcel
  refine Confines.bind (confines_withExcel Excel.opensOnly_start) fun _ => ?_
  refine Confines.bind (confines_withExcel (Excel.opensOnly_setOption _ _)) fun _ => ?_
  refine Confines.bind (confines_withExcel (Excel.opensOnly_setOption _ _)) fun _ => ?_
  refine confines_andFinally ?_ (confines_withExcel Excel.opensOnly_quit)
  refine Confines.bind (confines_withExcel (Excel.opensOnly_openBook rfl false)) fun _ => ?_
  refine confines_andFinally ?_ (confines_withExcel Excel.opensOnly_closeBook)
  exact Confines.tryCatch hbook fun e => Confines.throw _

theorem confines_listInExcel (p : Path) : Confines P p (listInExcel p) := by
  unfold listInExcel
  refine Confines.bind (confines_withExcel Excel.opensOnly_start) fun _ => ?_
  refine Confines.bind (confines_withExcel (Excel.opensOnly_setOption _ _)) fun _ => ?_
  refine confines_andFinally ?_ (confines_withExcel Excel.opensOnly_quit)
  refine Confines.bind (confines_withExcel (Excel.opensOnly_openBook rfl true)) fun _ => ?_
  refine confines_andFinally ?_ (confines_withExcel Excel.opensOnly_closeBook)
  exact Confines.tryCatch (confines_withExcel Excel.opensOnly_sheetNames) fun e =>
    Confines.throw _

theorem confines_edit (engine : Engine) (autoFormula : Bool) (p : Path) (title : String)
    (edits : List CellEdit) :
    Confines P p (edit engine autoFormula p title fun update =>
      CellEdit.applyAll update edits) := by
  cases engine with
  | excel =>
    exact confines_editInExcel (fun update => CellEdit.applyAll update edits)
      (Excel.opensOnly_applyAll autoFormula title edits)
  | file => exact confines_editFile autoFormula p title fun update => CellEdit.applyAll update edits

/-! ## Operations -/

/-- The path that an operation works on leads to the places. -/
def WorksWithin (P : Location → Prop) (policy : Option PathPolicy) (p : Path) (w : Workspace) :
    Prop :=
  ∀ resolved, PathPolicy.resolvePath policy w.files p = .ok resolved →
    LeadsWithin P w.files resolved

/-- An operation on an existing workbook is confined if what it does with the workbook is. -/
theorem confinedRun_existing_bind {policy : Option PathPolicy} {p : Path}
    {f : Path → Action α} (hw : WorksWithin P policy p w)
    (hf : ∀ resolved, Confines P resolved (f resolved)) :
    ConfinedRun P (existingWorkbook policy p >>= f) w := by
  refine (confinedRun_existingWorkbook policy p w).bind fun resolved next hresult => ?_
  rw [result_existingWorkbook] at hresult
  obtain ⟨hexisting, rfl⟩ := Prod.mk.inj hresult
  exact hf resolved w (hw resolved (existing_ok hexisting).1)

theorem confines_oldSheetNames (p : Path) : Confines P p (oldSheetNames p) := by
  unfold oldSheetNames
  refine Confines.bind (confines_withExcel Excel.opensOnly_availability) fun excel => ?_
  refine Confines.ite (confines_listInExcel p) ?_
  exact Confines.bind (Confines.throw _) fun _ => confines_listInExcel p

theorem confinedRun_openWorkbook {policy : Option PathPolicy} (hw : WorksWithin P policy p w) :
    ConfinedRun P (openWorkbook policy p) w := by
  refine confinedRun_existing_bind hw fun resolved => ?_
  refine Confines.bind (Confines.ofExcept _ _) fun _ => ?_
  have hend : ∀ sheets : List String, Confines P resolved (do
      inform "excelauto.mcp.sheet_ops"
        ("Opened workbook " ++ resolved.text ++ " with " ++ toString sheets.length ++
          " sheet(s).")
      pure (⟨resolved, sheets⟩ : OpenedWorkbook)) := fun sheets =>
    Confines.bind (confines_inform _ _) fun _ => Confines.pure _
  refine Confines.ite ?_ ?_
  · refine Confines.bind (confines_openStored resolved) fun book => ?_
    exact Confines.bind (Confines.pure book.titles) hend
  · exact Confines.bind (confines_oldSheetNames resolved) hend

theorem confinedRun_readRange {policy : Option PathPolicy} {r : ReadRangeRequest}
    (hw : WorksWithin P policy r.path w) : ConfinedRun P (readRange policy r) w := by
  refine confinedRun_existing_bind hw fun resolved => ?_
  refine Confines.bind (Confines.ofExcept _ _) fun range => ?_
  dsimp only
  refine Confines.refuse _ ?_
  refine Confines.bind (confines_openStored resolved) fun book => ?_
  refine Confines.bind (Confines.ofExcept _ _) fun stored => ?_
  refine Confines.refuse _ ?_
  exact Confines.bind (Confines.ofExcept _ _) fun sheet => Confines.pure _

theorem confines_blockWritten (r : WriteRangeRequest) (p : Path) :
    Confines P p (blockWritten r p) := by
  refine Confines.bind (confines_load p) fun book => ?_
  refine Confines.bind (Confines.ofExcept _ _) fun sheet => ?_
  exact Confines.bind (Confines.ofExcept _ _) fun _ => Confines.pure _

theorem confinedRun_writeRange {policy : Option PathPolicy} {r : WriteRangeRequest}
    (hw : WorksWithin P policy r.path w) : ConfinedRun P (writeRange policy r) w := by
  refine confinedRun_existing_bind hw fun resolved => ?_
  split
  · refine Confines.bind (confines_blockWritten r resolved) fun book => ?_
    refine Confines.bind (confines_save resolved book) fun _ => ?_
    exact Confines.bind (confines_inform _ _) fun _ => Confines.pure _
  · exact Confines.throw _

theorem confinedRun_setCells {policy : Option PathPolicy} {r : SetCellsRequest}
    (hw : WorksWithin P policy r.path w) : ConfinedRun P (setCells policy r) w := by
  refine confinedRun_existing_bind hw fun resolved => ?_
  refine Confines.bind (Confines.ofExcept _ _) fun _ => ?_
  refine Confines.bind (confines_withExcel Excel.opensOnly_availability) fun excel => ?_
  refine Confines.bind (Confines.ofExcept _ _) fun engine => ?_
  refine Confines.bind (confines_report _) fun _ => ?_
  refine Confines.bind (confines_edit engine _ resolved _ _) fun applied => ?_
  exact Confines.bind (confines_inform _ _) fun _ => Confines.pure _

/-! ## Creating a workbook -/

theorem confines_writeNewWorkbook (p : Path) (title : String) :
    Confines P p (writeNewWorkbook p title) :=
  Confines.bind (Confines.ofExcept _ _) fun _ =>
    Confines.bind (Confines.ofExcept _ _) fun book => confines_save p book

theorem confinedRun_resolvePath (policy : Option PathPolicy) (p : Path) (w : Workspace) :
    ConfinedRun P (resolvePath policy p) w :=
  ConfinedRun.of_reads
    (fun files => (PathPolicy.resolvePath policy files p).mapError .policy)
    (result_resolvePath policy p) fun g _ => by rw [PathPolicy.resolvePath_mapContents]

theorem confinedRun_chooseDestination (onConflict : ConflictPolicy) (p : Path)
    (w : Workspace) : ConfinedRun P (chooseDestination onConflict p) w := by
  refine ConfinedRun.of_reads
    (fun files => destination (pathPresent files) .naming onConflict p)
    (result_chooseDestination onConflict p) fun g _ => ?_
  rw [pathPresent_mapContents]

/-- Creating a workbook is confined to the places to which the chosen destination leads. -/
theorem confinedRun_createWorkbook {policy : Option PathPolicy} {r : CreateRequest}
    (hw : ∀ target, chosen policy r w.files = .ok target → LeadsWithin P w.files target.path) :
    ConfinedRun P (createWorkbook policy r) w := by
  refine (confinedRun_resolvePath policy r.path w).bind fun resolved next hnext => ?_
  rw [result_resolvePath] at hnext
  obtain ⟨hresolve, rfl⟩ := Prod.mk.inj hnext
  refine (ConfinedRun.ofExcept .format (checkCreatable resolved) w).bind fun _ next hnext => ?_
  rw [result_ofExcept] at hnext
  obtain ⟨hcreatable, rfl⟩ := Prod.mk.inj hnext
  refine (confinedRun_chooseDestination r.onConflict resolved w).bind fun target next hnext => ?_
  rw [result_chooseDestination] at hnext
  obtain ⟨htarget, rfl⟩ := Prod.mk.inj hnext
  have hchosen : chosen policy r w.files = .ok target := by
    rw [chosen, mapError_eq_ok.mp hresolve]
    simp only [mapError_eq_ok.mp hcreatable, htarget]
  have hrest : Confines P target.path (do
      if target.skipped then
        let book ← openStored target.path
        pure (⟨target.path, false, book.titles, target.warning.toList⟩ : CreatedWorkbook)
      else
        ensureDirectory target.path
        writeNewWorkbook target.path r.title
        inform "excelauto.mcp.sheet_ops" ("Created workbook: " ++ target.path.text)
        pure ⟨target.path, true, [r.title], target.warning.toList⟩) := by
    refine Confines.ite ?_ ?_
    · exact Confines.bind (confines_openStored target.path) fun book => Confines.pure _
    · refine Confines.bind (confines_ensureDirectory target.path) fun _ => ?_
      refine Confines.bind (confines_writeNewWorkbook target.path r.title) fun _ => ?_
      exact Confines.bind (confines_inform _ _) fun _ => Confines.pure _
  exact hrest w (hw target hchosen)

end WorkbookTools.Workspace
