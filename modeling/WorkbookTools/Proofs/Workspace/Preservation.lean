import WorkbookTools.Batch
import WorkbookTools.Opening
import WorkbookTools.Proofs.Range.Read
import WorkbookTools.Proofs.Workspace.Creating
import WorkbookTools.Range.Write

/-!
# What operations keep

An action keeps a relation if the workspace before it and the one after it are always related,
whether the action succeeds or fails. For a preorder this passes through all ways of building
actions, so that an operation keeps it as soon as requests to Excel, records of the log and the
saving of a workbook do; only the creation of a workbook makes directories too.

* `Tolerant`: what a relation has to respect. `Tolerant.openWorkbook` and its companions: then every
  operation keeps it.
* `tolerant_sameCurrent`: the current path is such a relation, so no operation selects a workbook.
* `tolerant_noNewDirectory`: so is having no new directory.
-/

namespace WorkbookTools.Workspace

open WorkbookTools.Action FileSystem

variable {α β : Type} {R : Workspace → Workspace → Prop}

/-- The workspace before the action and the one after it are related. -/
def Keeps (R : Workspace → Workspace → Prop) (x : Action α) : Prop :=
  ∀ w, R w (result x w).2

theorem Keeps.map (f : α → β) {x : Action α} (hx : Keeps R x) : Keeps R (f <$> x) := by
  intro w
  rw [result_map]
  exact hx w

theorem Keeps.ite {c : Prop} [Decidable c] {x y : Action α} (hx : Keeps R x) (hy : Keeps R y) :
    Keeps R (if c then x else y) := by
  split
  · exact hx
  · exact hy

/-- A preorder that requests to Excel, records of the log and saved workbooks respect. -/
structure Tolerant (R : Workspace → Workspace → Prop) : Prop where
  refl : ∀ w, R w w
  trans : ∀ {w w' w''}, R w w' → R w' w'' → R w w''
  excel : ∀ w excel, R w { w with excel }
  report : ∀ records, Keeps R (report records)
  save : ∀ p book, Keeps R (save p book)

/-! ## Ways of building actions -/

namespace Tolerant

variable (hR : Tolerant R)

include hR

theorem pure (a : α) : Keeps R (Pure.pure a : Action α) := fun w => hR.refl w

theorem throw (e : Error) : Keeps R (MonadExcept.throw e : Action α) := fun w => hR.refl w

theorem ofExcept {ε : Type} (wrap : ε → Error) (x : Except ε α) :
    Keeps R (Workspace.ofExcept wrap x) := by
  cases x with
  | ok a => exact hR.pure a
  | error e => exact hR.throw (wrap e)

theorem of_reads {x : Action α} {outcome : Workspace → Except Error α}
    (hx : ∀ w, result x w = (outcome w, w)) : Keeps R x := by
  intro w
  rw [hx]
  exact hR.refl w

theorem bind {x : Action α} {f : α → Action β} (hx : Keeps R x) (hf : ∀ a, Keeps R (f a)) :
    Keeps R (x >>= f) := by
  intro w
  have hfirst := hx w
  rw [result_bind]
  cases hresult : result x w with
  | mk outcome next =>
    rw [hresult] at hfirst
    cases outcome with
    | ok a => exact hR.trans hfirst (hf a next)
    | error e => exact hfirst

theorem tryCatch {x : Action α} {handle : Error → Action α} (hx : Keeps R x)
    (hhandle : ∀ e, Keeps R (handle e)) : Keeps R (MonadExcept.tryCatch x handle) := by
  intro w
  have hfirst := hx w
  rw [result_tryCatch]
  cases hresult : result x w with
  | mk outcome next =>
    rw [hresult] at hfirst
    cases outcome with
    | ok a => exact hfirst
    | error e => exact hR.trans hfirst (hhandle e next)

theorem andFinally {x : Action α} {cleanup : Action Unit} (hx : Keeps R x)
    (hcleanup : Keeps R cleanup) : Keeps R (Workspace.andFinally x cleanup) := by
  have hsettle : Keeps R (settle x) :=
    hR.tryCatch (hx.map Except.ok) fun e => hR.pure (Except.error e)
  exact hR.bind hsettle fun outcome => hR.bind hcleanup fun _ => hR.ofExcept id outcome

theorem withExcel (action : ExcelAction α) : Keeps R (Workspace.withExcel action) := by
  intro w
  rw [result_withExcel]
  exact hR.excel w _

theorem inform (logger message : String) : Keeps R (Workspace.inform logger message) :=
  hR.report _

/-! ## Engines -/

theorem load (p : Path) : Keeps R (Workspace.load p) :=
  hR.of_reads (result_load p)

theorem openStored (p : Path) : Keeps R (Workspace.openStored p) :=
  hR.of_reads (result_openStored p)

theorem editFile (autoFormula : Bool) (p : Path) (title : String) (body : EditBody α) :
    Keeps R (Workspace.editFile autoFormula p title body) := by
  refine hR.bind (hR.load p) fun book => ?_
  refine hR.bind (hR.ofExcept _ _) fun sheet => ?_
  refine hR.bind (hR.ofExcept id _) fun a => ?_
  refine hR.bind (hR.save p _) fun _ => ?_
  exact hR.bind (hR.inform _ _) fun _ => hR.pure a

theorem runInExcel (autoFormula : Bool) (title : String) (body : EditBody α) :
    Keeps R (Workspace.runInExcel autoFormula title body) := by
  intro w
  unfold Workspace.runInExcel
  rw [result_get_bind]
  obtain ⟨outcome, excel⟩ := ((body (Excel.updater autoFormula title)).run.run w.excel)
  exact hR.trans (hR.excel w excel) (hR.ofExcept id outcome _)

theorem editInExcel (autoFormula : Bool) (p : Path) (title : String) (body : EditBody α) :
    Keeps R (Workspace.editInExcel autoFormula p title body) := by
  have hedit : Keeps R (do
      let a ← Workspace.runInExcel autoFormula title body
      Workspace.withExcel Excel.saveBook
      Workspace.inform "excelauto.mcp.backend.xlwings_backend"
        ("Saved workbook via Excel COM: " ++ p.text)
      Pure.pure a) := by
    refine hR.bind (hR.runInExcel autoFormula title body) fun a => ?_
    refine hR.bind (hR.withExcel _) fun _ => ?_
    exact hR.bind (hR.inform _ _) fun _ => hR.pure a
  have hbook : Keeps R (editOpenBook autoFormula p title body) := by
    refine hR.bind (hR.withExcel _) fun names => ?_
    exact Keeps.ite hedit (hR.bind (hR.throw _) fun _ => hedit)
  unfold Workspace.editInExcel
  refine hR.bind (hR.withExcel _) fun _ => ?_
  refine hR.bind (hR.withExcel _) fun _ => ?_
  refine hR.bind (hR.withExcel _) fun _ => ?_
  refine hR.andFinally ?_ (hR.withExcel _)
  refine hR.bind (hR.withExcel _) fun _ => ?_
  refine hR.andFinally ?_ (hR.withExcel _)
  exact hR.tryCatch hbook fun e => hR.throw _

theorem edit (engine : Engine) (autoFormula : Bool) (p : Path) (title : String)
    (body : EditBody α) : Keeps R (Workspace.edit engine autoFormula p title body) := by
  cases engine with
  | excel => exact hR.editInExcel autoFormula p title body
  | file => exact hR.editFile autoFormula p title body

theorem listInExcel (p : Path) : Keeps R (Workspace.listInExcel p) := by
  unfold Workspace.listInExcel
  refine hR.bind (hR.withExcel _) fun _ => ?_
  refine hR.bind (hR.withExcel _) fun _ => ?_
  refine hR.andFinally ?_ (hR.withExcel _)
  refine hR.bind (hR.withExcel _) fun _ => ?_
  refine hR.andFinally ?_ (hR.withExcel _)
  exact hR.tryCatch (hR.withExcel _) fun e => hR.throw _

/-! ## Operations -/

theorem existing_bind {policy : Option PathPolicy} {p : Path} {f : Path → Action α}
    (hf : ∀ resolved, Keeps R (f resolved)) : Keeps R (existingWorkbook policy p >>= f) :=
  hR.bind (hR.of_reads (result_existingWorkbook policy p)) hf

theorem openWorkbook (policy : Option PathPolicy) (p : Path) :
    Keeps R (Workspace.openWorkbook policy p) := by
  refine hR.existing_bind fun resolved => ?_
  refine hR.bind (hR.ofExcept _ _) fun _ => ?_
  have hend : ∀ sheets : List String, Keeps R (do
      Workspace.inform "excelauto.mcp.sheet_ops"
        ("Opened workbook " ++ resolved.text ++ " with " ++ toString sheets.length ++
          " sheet(s).")
      Pure.pure (⟨resolved, sheets⟩ : OpenedWorkbook)) := fun sheets =>
    hR.bind (hR.inform _ _) fun _ => hR.pure _
  refine Keeps.ite ?_ ?_
  · exact hR.bind (hR.openStored resolved) fun book => hR.bind (hR.pure book.titles) hend
  · refine hR.bind (hR.bind (hR.withExcel _) fun excel => ?_) hend
    exact Keeps.ite (hR.listInExcel resolved)
      (hR.bind (hR.throw _) fun _ => hR.listInExcel resolved)

theorem readRange (policy : Option PathPolicy) (r : ReadRangeRequest) :
    Keeps R (Workspace.readRange policy r) :=
  hR.of_reads (result_readRange policy r)

theorem writeRange (policy : Option PathPolicy) (r : WriteRangeRequest) :
    Keeps R (Workspace.writeRange policy r) := by
  refine hR.existing_bind fun resolved => ?_
  have hblock : Keeps R (blockWritten r resolved) := by
    refine hR.bind (hR.load resolved) fun book => ?_
    refine hR.bind (hR.ofExcept _ _) fun sheet => ?_
    exact hR.bind (hR.ofExcept _ _) fun _ => hR.pure _
  split
  · refine hR.bind hblock fun book => ?_
    refine hR.bind (hR.save resolved book) fun _ => ?_
    exact hR.bind (hR.inform _ _) fun _ => hR.pure _
  · exact hR.throw _

theorem setCells (policy : Option PathPolicy) (r : SetCellsRequest) :
    Keeps R (Workspace.setCells policy r) := by
  refine hR.existing_bind fun resolved => ?_
  refine hR.bind (hR.ofExcept _ _) fun _ => ?_
  refine hR.bind (hR.withExcel _) fun excel => ?_
  refine hR.bind (hR.ofExcept _ _) fun engine => ?_
  refine hR.bind (hR.report _) fun _ => ?_
  refine hR.bind (hR.edit engine r.autoFormula resolved r.sheet fun update =>
    CellEdit.applyAll update (Instruction.partition r.instructions).edits) fun applied => ?_
  exact hR.bind (hR.inform _ _) fun _ => hR.pure _

theorem createWorkbook (hensure : ∀ p, Keeps R (ensureDirectory p))
    (policy : Option PathPolicy) (r : CreateRequest) :
    Keeps R (Workspace.createWorkbook policy r) := by
  refine hR.bind (hR.of_reads (result_resolvePath policy r.path)) fun resolved => ?_
  refine hR.bind (hR.ofExcept _ _) fun _ => ?_
  refine hR.bind (hR.of_reads (result_chooseDestination r.onConflict resolved)) fun target => ?_
  have hwrite : Keeps R (writeNewWorkbook target.path r.title) :=
    hR.bind (hR.ofExcept _ _) fun _ => hR.bind (hR.ofExcept _ _) fun book => hR.save _ book
  refine Keeps.ite ?_ ?_
  · exact hR.bind (hR.openStored target.path) fun book => hR.pure _
  · refine hR.bind (hensure target.path) fun _ => ?_
    refine hR.bind hwrite fun _ => ?_
    exact hR.bind (hR.inform _ _) fun _ => hR.pure _

end Tolerant

/-! ## The current path -/

/-- The current path is the same. -/
def SameCurrent (w w' : Workspace) : Prop := w'.current = w.current

theorem tolerant_sameCurrent : Tolerant SameCurrent where
  refl _ := rfl
  trans h h' := Eq.trans h' h
  excel _ _ := rfl
  report records w := by rw [result_report]; rfl
  save p book w := by
    rw [result_save]
    split <;> rfl

theorem sameCurrent_ensureDirectory (p : Path) : Keeps SameCurrent (ensureDirectory p) := by
  intro w
  rw [result_ensureDirectory]
  rfl

/-! ## Directories -/

/-- No directory has been created. -/
def NoNewDirectory (w w' : Workspace) : Prop :=
  ∀ place, w'.files.entryAt place = some .directory → w.files.entryAt place = some .directory

theorem noNewDirectory_set_file {w : Workspace} {place : Location}
    (hplace : TakesFile w.files place) (content : Content) :
    NoNewDirectory w { w with files := w.files.set place (.file content) } := by
  intro other hother
  by_cases hsame : place = other
  · subst hsame
    rw [entryAt_set_self hplace.ne_root] at hother
    cases hother
  · rwa [entryAt_set_of_ne hsame] at hother

theorem tolerant_noNewDirectory : Tolerant NoNewDirectory where
  refl _ _ h := h
  trans h h' place hplace := h place (h' place hplace)
  excel _ _ _ h := h
  report records w := by
    rw [result_report]
    cases hlog : w.logFile with
    | none => exact fun _ h => h
    | some f =>
      intro place hplace
      rcases writeRecords_cases f records w.files with hsame | ⟨content, more, hfile, hset⟩
      · simpa only [hsame] using hplace
      · refine noNewDirectory_set_file (takesFile_of_file hfile) (content.extended more) place ?_
        simpa only [hset] using hplace
  save p book w := by
    rw [result_save]
    cases htarget : w.files.writeTarget p with
    | error e => exact fun _ h => h
    | ok place => exact noNewDirectory_set_file (writeTarget_ok htarget).2 _

end WorkbookTools.Workspace
