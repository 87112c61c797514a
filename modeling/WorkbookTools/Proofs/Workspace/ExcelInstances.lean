import WorkbookTools.Opening
import WorkbookTools.Proofs.Excel.Instances
import WorkbookTools.Proofs.Workspace.Batches

/-!
# Instances that are left behind

Every operation that uses Excel starts an instance of its own. The instance is asked to quit however
the operation ends, except where one of its options cannot be set: this happens between the start
and the part of the operation that is cleaned up after, so the instance stays.

* `Accounts`: all instances end, or the last one stays and the action fails.
* `instances_quit_iff_options_set`: which runs of an operation leave no instance behind.
* `refused_option_leaves_instance`: a batch that leaves one.
-/

namespace WorkbookTools.Workspace

open WorkbookTools.Action
open WorkbookTools.Excel (AllQuit Ends LeavesOne OptionsSet)

variable {α β : Type}

/-! ## Actions that account for their instances -/

/-- All instances that the action starts end, or it fails and leaves one behind. -/
def Accounts (x : Action α) : Prop :=
  ∀ w, ∃ events, (result x w).2.excel = w.excel.afterAll events ∧
    (AllQuit (w.excel.replies events) ∧ OptionsSet (w.excel.replies events) ∨
      LeavesOne (w.excel.replies events) ∧ ∃ e, (result x w).1 = .error e)

/-- The action ends the instance that has been started before it, or it fails and leaves it. -/
def EndsInstance (x : Action α) : Prop :=
  ∀ w, ∃ events, (result x w).2.excel = w.excel.afterAll events ∧
    (Ends (w.excel.replies events) ∧ OptionsSet (w.excel.replies events) ∨
      ((∀ reply ∈ w.excel.replies events, reply.1.IsWork) ∧
        ¬ OptionsSet (w.excel.replies events)) ∧ ∃ e, (result x w).1 = .error e)

/-- Actions that make no request. -/
def Silent (x : Action α) : Prop := ∀ w, (result x w).2.excel = w.excel

theorem Silent.accounts {x : Action α} (hx : Silent x) : Accounts x :=
  fun w => ⟨[], hx w, .inl ⟨.nil, .nil⟩⟩

theorem Silent.bind {x : Action α} {f : α → Action β} (hx : Silent x) (hf : ∀ a, Silent (f a)) :
    Silent (x >>= f) := by
  intro w
  rw [result_bind]
  cases hresult : result x w with
  | mk outcome next =>
    have hnext := hx w
    rw [hresult] at hnext
    cases outcome with
    | error e => exact hnext
    | ok a => exact (hf a next).trans hnext

/-- A sequence stops where an instance is left behind. -/
theorem Accounts.bind {x : Action α} {f : α → Action β} (hx : Accounts x)
    (hf : ∀ a, Accounts (f a)) : Accounts (x >>= f) := by
  intro w
  obtain ⟨events, hnext, hevents⟩ := hx w
  rw [result_bind]
  cases hresult : result x w with
  | mk outcome next =>
    rw [hresult] at hnext hevents
    cases outcome with
    | error e => exact ⟨events, hnext, hevents.imp_right fun h => ⟨h.1, e, rfl⟩⟩
    | ok a =>
      rcases hevents with ⟨hquit, hset⟩ | ⟨-, e, he⟩
      · obtain ⟨more, hlast, hmore⟩ := hf a next
        refine ⟨events ++ more, by rw [hlast, hnext, Excel.afterAll_append], ?_⟩
        rw [hnext] at hmore
        rw [Excel.replies_append]
        refine hmore.imp (fun h => ⟨hquit.append h.1, hset.append h.2⟩) fun h => ⟨?_, h.2⟩
        exact hquit.leavesOne_append h.1
      · cases he

theorem Accounts.ite {c : Prop} [Decidable c] {x y : Action α} (hx : Accounts x)
    (hy : Accounts y) : Accounts (if c then x else y) := by
  split
  · exact hx
  · exact hy

theorem accounts_availability : Accounts (withExcel Excel.availability) := by
  intro w
  obtain ⟨events, hnext, hquit⟩ := Excel.availability_allQuit w.excel
  rw [result_withExcel]
  exact ⟨events, hnext, .inl hquit⟩

/-! ## One instance -/

/-- An instance that does not start need not end. -/
theorem accounts_start {f : Unit → Action α} (hf : EndsInstance (f ())) :
    Accounts (withExcel Excel.start >>= f) := by
  intro w
  rw [Excel.start, result_request_bind]
  cases hstart : w.excel.fault? .start with
  | some fault =>
    refine ⟨[.start], rfl, .inl ?_⟩
    rw [Excel.replies, hstart]
    exact ⟨.failedStart fault .nil, by simp [OptionsSet, Excel.replies]⟩
  | none =>
    obtain ⟨events, hnext, hevents⟩ := hf (w.afterRequests [.start])
    refine ⟨.start :: events, hnext, ?_⟩
    rw [Excel.replies, hstart]
    rcases hevents with ⟨hends, hset⟩ | ⟨hleft, herror⟩
    · exact .inl ⟨hends.allQuit, hset.cons_none⟩
    · exact .inr ⟨⟨[], _, rfl, .nil, hleft⟩, herror⟩

theorem isWork_setOption (option : ExcelOption) (on : Bool) :
    (ExcelEvent.setOption option on).IsWork := ⟨nofun, nofun, nofun⟩

/-- An option is set before the part that is cleaned up after. -/
theorem EndsInstance.setOption {option : ExcelOption} {on : Bool} {f : Unit → Action α}
    (hf : EndsInstance (f ())) : EndsInstance (withExcel (Excel.setOption option on) >>= f) := by
  intro w
  have hwork := isWork_setOption option on
  rw [Excel.setOption, result_request_bind]
  cases hoption : w.excel.fault? (.setOption option on) with
  | some fault =>
    refine ⟨[.setOption option on], rfl, .inr ⟨⟨?_, fun hset => ?_⟩, _, rfl⟩⟩
    · intro reply hreply
      rw [Excel.replies, Excel.replies, List.mem_singleton] at hreply
      rw [hreply]
      exact hwork
    · rw [Excel.replies, hoption] at hset
      exact hset option on fault List.mem_cons_self
  | none =>
    obtain ⟨events, hnext, hevents⟩ := hf (w.afterRequests [.setOption option on])
    refine ⟨.setOption option on :: events, hnext, ?_⟩
    rw [Excel.replies, hoption]
    rcases hevents with ⟨hends, hset⟩ | ⟨⟨hleft, hrefused⟩, herror⟩
    · exact .inl ⟨.work hwork hends, hset.cons_none⟩
    · refine .inr ⟨⟨List.forall_mem_cons.mpr ⟨hwork, hleft⟩, fun hset => hrefused ?_⟩, herror⟩
      exact fun option on f hmem => hset option on f (List.mem_cons_of_mem _ hmem)

/-- Whatever happens to the workbook, the instance is asked to quit. -/
theorem endsInstance_andFinally {x : Action α}
    (hx : RequestsOnly Workspace.excel ExcelEvent.IsBookWork x) :
    EndsInstance (andFinally x (withExcel Excel.quit)) := by
  intro w
  obtain ⟨events, hnext, hevents⟩ := hx w
  refine ⟨events ++ (w.excel.afterAll events).quitting, ?_, .inl (Excel.ends_of_bookWork hevents)⟩
  rw [result_andFinally_quit, excel_afterRequests, hnext, Excel.afterAll_append]

/-! ## Work on the open workbook -/

theorem Silent.requestsOnly {q : ExcelEvent → Prop} {x : Action α} (hx : Silent x) :
    RequestsOnly Workspace.excel q x := RequestsOnly.of_unchanged hx

theorem requestsOnly_withExcel {q : ExcelEvent → Prop} {action : ExcelAction α}
    (h : RequestsOnly id q action) : RequestsOnly Workspace.excel q (withExcel action) := by
  intro w
  rw [result_withExcel]
  exact h w.excel

theorem requestsOnly_runInExcel {q : ExcelEvent → Prop} {autoFormula : Bool} {sheet : String}
    {body : EditBody α} (h : RequestsOnly id q (body (Excel.updater autoFormula sheet))) :
    RequestsOnly Workspace.excel q (runInExcel autoFormula sheet body) := by
  intro w
  rw [result_runInExcel]
  exact h w.excel

theorem requestsOnly_andFinally_closeBook {q : ExcelEvent → Prop} {x : Action α}
    (hx : RequestsOnly Workspace.excel q x) (hclose : q .closeBook) :
    RequestsOnly Workspace.excel q (andFinally x (withExcel Excel.closeBook)) := by
  intro w
  obtain ⟨events, hnext, hevents⟩ := hx w
  refine ⟨events ++ [.closeBook], ?_, fun e he => ?_⟩
  · rw [result_andFinally_closeBook, excel_afterRequests, hnext, Excel.afterAll_append]
  · rcases List.mem_append.mp he with he | he
    · exact hevents e he
    · rw [List.mem_singleton.mp he]
      exact hclose

theorem silent_pure (a : α) : Silent (pure a) := fun _ => rfl

theorem silent_throw (e : Error) : Silent (throw e : Action α) := fun _ => rfl

theorem silent_report (records : List LogRecord) : Silent (report records) := fun _ => rfl

theorem silent_inform (logger message : String) : Silent (inform logger message) :=
  silent_report _

theorem silent_ofExcept {ε : Type} (wrap : ε → Error) (x : Except ε α) :
    Silent (ofExcept wrap x) := fun w => by rw [result_ofExcept]

theorem isBookWork_openBook (p : String) (readOnly : Bool) :
    (ExcelEvent.openBook p readOnly).IsBookWork := ⟨⟨nofun, nofun, nofun⟩, nofun⟩

theorem isBookWork_setCell (sheet : String) (row column : Int) (property : CellProperty) :
    (ExcelEvent.setCell sheet row column property).IsBookWork := ⟨⟨nofun, nofun, nofun⟩, nofun⟩

theorem isBookWork_saveBook : ExcelEvent.saveBook.IsBookWork := ⟨⟨nofun, nofun, nofun⟩, nofun⟩

theorem isBookWork_closeBook : ExcelEvent.closeBook.IsBookWork := ⟨⟨nofun, nofun, nofun⟩, nofun⟩

/-- An edit in Excel accounts for its instance if the body sets cells only. -/
theorem accounts_editInExcel {autoFormula : Bool} {p : Path} {title : String} {body : EditBody α}
    (hbody : RequestsOnly id ExcelEvent.IsBookWork (body (Excel.updater autoFormula title))) :
    Accounts (editInExcel autoFormula p title body) := by
  have hedit : RequestsOnly Workspace.excel ExcelEvent.IsBookWork
      (editOpenBook autoFormula p title body) := by
    refine RequestsOnly.bind (requestsOnly_withExcel Excel.requestsOnly_sheetNames) fun names => ?_
    refine RequestsOnly.ite ?_ (RequestsOnly.bind (RequestsOnly.throw _) fun _ => ?_)
    all_goals
      refine RequestsOnly.bind (requestsOnly_runInExcel hbody) fun edited => ?_
      refine RequestsOnly.bind
        (requestsOnly_withExcel (Excel.requestsOnly_request isBookWork_saveBook)) fun _ => ?_
      exact RequestsOnly.bind (silent_inform _ _).requestsOnly fun _ => RequestsOnly.pure edited
  refine accounts_start (EndsInstance.setOption (EndsInstance.setOption ?_))
  refine endsInstance_andFinally (RequestsOnly.bind
    (requestsOnly_withExcel (Excel.requestsOnly_request (isBookWork_openBook _ _))) fun _ => ?_)
  refine requestsOnly_andFinally_closeBook ?_ isBookWork_closeBook
  exact RequestsOnly.tryCatch hedit fun e => RequestsOnly.throw _

theorem accounts_listInExcel (p : Path) : Accounts (listInExcel p) := by
  refine accounts_start (EndsInstance.setOption ?_)
  refine endsInstance_andFinally (RequestsOnly.bind
    (requestsOnly_withExcel (Excel.requestsOnly_request (isBookWork_openBook _ _))) fun _ => ?_)
  refine requestsOnly_andFinally_closeBook ?_ isBookWork_closeBook
  exact RequestsOnly.tryCatch (requestsOnly_withExcel Excel.requestsOnly_sheetNames) fun e =>
    RequestsOnly.throw _

/-! ## Operations -/

/-- A use of a sheet that an engine has opened: it makes updates, depending on how the earlier ones
went, and ends in its own way. -/
inductive SheetUse where
  | finish (outcome : Except Error Unit)
  | update (row column : Int) (u : CellUpdate) (next : Except Error Unit → SheetUse)

def SheetUse.run {σ : Type} (update : Updater σ) : SheetUse → EditAction σ Unit
  | .finish (.ok ()) => pure ()
  | .finish (.error e) => throw e
  | .update row column u next => do
    let outcome ← tryCatch (Except.ok <$> update row column u) fun e => pure (.error e)
    (next outcome).run update

/-- An operation that can start Excel. -/
inductive ExcelUse where
  | findOut
  | openWorkbook (policy : Option PathPolicy) (p : Path)
  | listSheets (p : Path)
  | setCells (policy : Option PathPolicy) (r : SetCellsRequest)
  /-- A sheet is opened in Excel for any use. -/
  | openSheet (autoFormula : Bool) (p : Path) (title : String) (use : SheetUse)

def ExcelUse.run : ExcelUse → Action Unit
  | .findOut => do let _ ← withExcel Excel.availability
  | .openWorkbook policy p => do let _ ← Workspace.openWorkbook policy p
  | .listSheets p => do let _ ← listInExcel p
  | .setCells policy r => do let _ ← Workspace.setCells policy r
  | .openSheet autoFormula p title use =>
    edit .excel autoFormula p title fun update => use.run update

theorem silent_existingWorkbook (policy : Option PathPolicy) (p : Path) :
    Silent (existingWorkbook policy p) := fun w => by rw [result_existingWorkbook]

theorem silent_openStored (p : Path) : Silent (openStored p) := fun w => by rw [result_openStored]

theorem silent_load (p : Path) : Silent (load p) := fun w => by rw [result_load]

theorem silent_save (p : Path) (book : Workbook) : Silent (save p book) := by
  intro w
  rw [result_save]
  cases w.files.writeTarget p <;> rfl

theorem silent_editFile (autoFormula : Bool) (p : Path) (title : String) (body : EditBody α) :
    Silent (editFile autoFormula p title body) := by
  refine Silent.bind (silent_load p) fun book => ?_
  refine Silent.bind (silent_ofExcept _ _) fun sheet => ?_
  refine Silent.bind (silent_ofExcept _ _) fun edited => ?_
  refine Silent.bind (silent_save _ _) fun _ => ?_
  exact Silent.bind (silent_inform _ _) fun _ => silent_pure _

theorem requestsOnly_sheetUse (autoFormula : Bool) (title : String) (use : SheetUse) :
    RequestsOnly id ExcelEvent.IsBookWork (use.run (Excel.updater autoFormula title)) := by
  induction use with
  | finish outcome =>
    cases outcome with
    | ok _ => exact RequestsOnly.pure ()
    | error e => exact RequestsOnly.throw e
  | update row column u next ih =>
    have hupdate := Excel.requestsOnly_updater autoFormula title
      (fun row column property => isBookWork_setCell title row column property) row column u
    refine RequestsOnly.bind (RequestsOnly.tryCatch (RequestsOnly.map _ hupdate) fun e =>
      RequestsOnly.pure _) ih

theorem accounts_edit (engine : Engine) (autoFormula : Bool) (p : Path) (title : String)
    (edits : List CellEdit) :
    Accounts (edit engine autoFormula p title fun update => CellEdit.applyAll update edits) := by
  unfold edit
  cases engine with
  | file => exact (silent_editFile autoFormula p title _).accounts
  | excel =>
    exact accounts_editInExcel
      (Excel.requestsOnly_applyAll autoFormula title (isBookWork_setCell title) edits)

theorem accounts_oldSheetNames (p : Path) : Accounts (oldSheetNames p) := by
  refine Accounts.bind accounts_availability fun excel => ?_
  refine Accounts.ite (accounts_listInExcel p) ?_
  exact Accounts.bind (silent_throw _).accounts fun _ => accounts_listInExcel p

theorem accounts_openWorkbook (policy : Option PathPolicy) (p : Path) :
    Accounts (openWorkbook policy p) := by
  refine Accounts.bind (silent_existingWorkbook policy p).accounts fun resolved => ?_
  refine Accounts.bind (silent_ofExcept _ _).accounts fun _ => ?_
  have hend : ∀ sheets : List String, Accounts (do
      inform "excelauto.mcp.sheet_ops"
        ("Opened workbook " ++ resolved.text ++ " with " ++ toString sheets.length ++
          " sheet(s).")
      pure (⟨resolved, sheets⟩ : OpenedWorkbook)) := fun sheets =>
    Silent.accounts (Silent.bind (silent_inform _ _) fun _ => silent_pure _)
  refine Accounts.ite ?_ ?_
  · refine Accounts.bind (silent_openStored resolved).accounts fun book => ?_
    exact Accounts.bind (silent_pure book.titles).accounts hend
  · exact Accounts.bind (accounts_oldSheetNames resolved) hend

theorem accounts_setCells (policy : Option PathPolicy) (r : SetCellsRequest) :
    Accounts (setCells policy r) := by
  refine Accounts.bind (silent_existingWorkbook policy r.path).accounts fun resolved => ?_
  refine Accounts.bind (silent_ofExcept _ _).accounts fun _ => ?_
  refine Accounts.bind accounts_availability fun excel => ?_
  refine Accounts.bind (silent_ofExcept _ _).accounts fun engine => ?_
  refine Accounts.bind (silent_report _).accounts fun _ => ?_
  refine Accounts.bind (accounts_edit engine _ resolved _ _) fun applied => ?_
  exact Silent.accounts (Silent.bind (silent_inform _ _) fun _ => silent_pure _)

theorem ExcelUse.accounts (use : ExcelUse) : Accounts use.run := by
  cases use with
  | findOut => exact Accounts.bind accounts_availability fun _ => (silent_pure _).accounts
  | openWorkbook policy p =>
    exact Accounts.bind (accounts_openWorkbook policy p) fun _ => (silent_pure _).accounts
  | listSheets p => exact Accounts.bind (accounts_listInExcel p) fun _ => (silent_pure _).accounts
  | setCells policy r =>
    exact Accounts.bind (accounts_setCells policy r) fun _ => (silent_pure _).accounts
  | openSheet autoFormula p title use =>
    exact accounts_editInExcel (requestsOnly_sheetUse autoFormula title use)

/-- Each instance that an operation has started is asked to quit once before the operation ends, and
killed if and only if that fails, if and only if no option of an instance was refused. Otherwise the
operation fails, and the last instance is the only one that is left. -/
theorem instances_quit_iff_options_set (use : ExcelUse) (w : Workspace) :
    ∃ events, (result use.run w).2.excel = w.excel.afterAll events ∧
      (AllQuit (w.excel.replies events) ↔
        ∀ option on f, (.setOption option on, some f) ∉ w.excel.replies events) ∧
      (AllQuit (w.excel.replies events) ∨
        LeavesOne (w.excel.replies events) ∧ ∃ e, (result use.run w).1 = .error e) := by
  obtain ⟨events, hnext, hevents⟩ := use.accounts w
  refine ⟨events, hnext, ?_, hevents.imp_left And.left⟩
  rcases hevents with ⟨hquit, hset⟩ | ⟨hleft, -⟩
  · exact iff_of_true hquit hset
  · exact iff_of_false (Excel.not_allQuit_of_leavesOne hleft) hleft.not_optionsSet

/-- A computer whose Excel cannot be kept from prompting. -/
def promptingWorkspace : Workspace :=
  bookWorkspace { ExcelSetup.absent with
    platform := "win32"
    attributeFaults := [("display_alerts", ⟨.other, "com_error", "Call was rejected."⟩)] }

/-- The instance that finds out about Excel quits; the one that is to edit the workbook does not. -/
theorem refused_option_leaves_instance :
    let use := ExcelUse.setCells none
      ⟨Path.ofText "/book.xlsx", "Sheet1", ["'a'@A1"], .auto, false⟩
    let events := [.start, .quit, .start, .setOption .displayAlerts false]
    (result use.run promptingWorkspace).2.excel = promptingWorkspace.excel.afterAll events ∧
      ¬ AllQuit (promptingWorkspace.excel.replies events) := by
  intro use events
  refine ⟨by decide +kernel, fun hall => ?_⟩
  have hcount := hall.countP_eq
  revert hcount
  decide +kernel

end WorkbookTools.Workspace
