import WorkbookTools.Batch
import WorkbookTools.Proofs.Excel.Requests
import WorkbookTools.Proofs.Workspace.Saving

/-!
# The course of a batch

A batch looks for its workbook, chooses an engine and writes its records before the engine opens the
sheet and applies the edits. Excel opens a workbook by a fixed row of requests.

* `result_setCells`: a batch is its beginning, the edit by the engine and a record.
* `result_editInExcel`: the edit by Excel, once the workbook is open.
* `result_editInExcel_unopened`: the edit by Excel, if the workbook cannot be opened.
* `result_editOpenBook_missing`, `result_editOpenBook_error`, `result_editOpenBook_ok`: the three
  ways of an edit in an open workbook.
-/

namespace WorkbookTools.Workspace

open WorkbookTools.Action

variable {α : Type}

/-! ## The beginning of a batch -/

/-- A batch up to the point where the engine takes over: the resolved path, what is known about
Excel, and the engine. -/
def beginBatch (policy : Option PathPolicy) (r : SetCellsRequest) :
    Action (Path × Availability × Engine) := do
  let resolved ← existingWorkbook policy r.path
  ofExcept .format (checkExtension resolved)
  let excel ← withExcel Excel.availability
  let engine ← ofExcept .engine (r.engine.select resolved excel.available)
  report (Instruction.partitionRecords r.instructions)
  pure (resolved, excel, engine)

/-- A batch begins if its workbook is found, has the right extension, and an engine is chosen for
it. -/
theorem beginBatch_ok {policy : Option PathPolicy} {r : SetCellsRequest} {w w' : Workspace}
    {p : Path} {excel : Availability} {engine : Engine} :
    result (beginBatch policy r) w = (.ok (p, excel, engine), w') ↔
      existing policy w.files r.path = .ok p ∧ checkExtension p = .ok () ∧
        (result Excel.availability w.excel).1 = .ok excel ∧
        r.engine.select p excel.available = .ok engine ∧
        w' = (result (report (Instruction.partitionRecords r.instructions))
          { w with excel := (result Excel.availability w.excel).2 }).2 := by
  unfold beginBatch
  rw [result_bind, result_existingWorkbook]
  cases existing policy w.files r.path with
  | error e => simp
  | ok found =>
    simp only [ofExcept_bind_ok]
    rw [result_bind, result_withExcel]
    cases (result Excel.availability w.excel).1 with
    | error f => simp [Except.mapError]
    | ok a =>
      simp only [mapError_ok, ofExcept_bind_ok]
      simp only [result_bind, result_report]
      constructor
      · rintro ⟨_, hcheck, found, hselect, hend⟩
        cases hend
        exact ⟨rfl, hcheck, rfl, hselect, rfl⟩
      · rintro ⟨hfound, hcheck, hexcel, hselect, rfl⟩
        cases hfound
        cases hexcel
        exact ⟨(), hcheck, engine, hselect, rfl⟩

/-- The edit of a batch by an engine. -/
def editBatch (r : SetCellsRequest) (p : Path) (engine : Engine) : Action (List AppliedEdit) :=
  edit engine r.autoFormula p r.sheet fun update =>
    CellEdit.applyAll update (Instruction.partition r.instructions).edits

/-- The answer to a batch whose edits have been applied. -/
def answerOf (r : SetCellsRequest) (p : Path) (excel : Availability) (engine : Engine)
    (applied : List AppliedEdit) : SetCellsResult :=
  let skipped := (Instruction.partition r.instructions).skipped
  ⟨p, r.sheet, applied, skipped,
    sizeWarning r.instructions.length ++ engineWarnings r.engine engine excel ++
      skipped.map Rejection.message,
    engine⟩

/-- The rest of a batch: the edit by the engine, and a record. -/
def finishBatch (r : SetCellsRequest) (p : Path) (excel : Availability) (engine : Engine) :
    Action SetCellsResult := do
  let applied ← editBatch r p engine
  inform Instruction.batchLogger
    ("Applied " ++ toString applied.length ++ " cell instruction(s) to sheet '" ++ r.sheet ++
      "' (" ++ toString (Instruction.partition r.instructions).skipped.length ++ " skipped).")
  pure (answerOf r p excel engine applied)

theorem setCells_eq (policy : Option PathPolicy) (r : SetCellsRequest) :
    setCells policy r =
      beginBatch policy r >>= fun (p, excel, engine) => finishBatch r p excel engine := by
  simp only [setCells, beginBatch, finishBatch, editBatch, answerOf, bind_assoc, pure_bind]

/-- A batch that has begun succeeds if its edits are applied, and changes Excel no more. -/
theorem result_setCells {policy : Option PathPolicy} {r : SetCellsRequest} {w start : Workspace}
    {p : Path} {excel : Availability} {engine : Engine}
    (hbegin : result (beginBatch policy r) w = (.ok (p, excel, engine), start)) :
    (result (setCells policy r) w).1 =
        (result (editBatch r p engine) start).1.map (answerOf r p excel engine) ∧
      (result (setCells policy r) w).2.excel = (result (editBatch r p engine) start).2.excel := by
  rw [setCells_eq, result_bind, hbegin]
  simp only [finishBatch, result_bind]
  cases result (editBatch r p engine) start with
  | mk outcome last => cases outcome <;> exact ⟨rfl, rfl⟩

/-! ## The file engine -/

theorem result_editFile_error {autoFormula : Bool} {p : Path} {title : String}
    {body : EditBody α} {w : Workspace} {book : Workbook} {sheet edited : Sheet} {e : Error}
    (hload : loaded p w.files = .ok book) (hsheet : book.sheet title = .ok sheet)
    (hbody : result (body (Sheet.updater autoFormula)) sheet = (.error e, edited)) :
    (result (editFile autoFormula p title body) w).1 = .error e := by
  have hrun : (body (Sheet.updater autoFormula)).run.run sheet = (.error e, edited) := hbody
  unfold editFile
  rw [result_bind, result_load, hload]
  simp only [result_ofExcept_bind, hsheet, hrun]
  rfl

/-! ## Excel -/

/-- The requests by which Excel opens a workbook for editing. -/
def openingRequests (p : Path) : List ExcelEvent :=
  [.start, .setOption .displayAlerts false, .setOption .screenUpdating false,
    .openBook p.text false]

/-- The workspace with Excel after a row of requests. -/
def afterRequests (w : Workspace) (events : List ExcelEvent) : Workspace :=
  { w with excel := w.excel.afterAll events }

@[simp] theorem excel_afterRequests (w : Workspace) (events : List ExcelEvent) :
    (w.afterRequests events).excel = w.excel.afterAll events := rfl

@[simp] theorem afterRequests_append (w : Workspace) (events more : List ExcelEvent) :
    w.afterRequests (events ++ more) = (w.afterRequests events).afterRequests more := by
  simp [afterRequests]

theorem result_request_bind (e : ExcelEvent) (f : Unit → Action α) (w : Workspace) :
    result (withExcel (Excel.request e) >>= f) w =
      match w.excel.fault? e with
      | some fault => (.error (.fault fault), w.afterRequests [e])
      | none => result (f ()) (w.afterRequests [e]) := by
  rw [result_bind, result_withExcel, Excel.result_request]
  cases w.excel.fault? e <;> rfl

/-- Cleaning up that cannot fail leaves the outcome as it is. -/
theorem result_andFinally (x : Action α) {cleanup : Action Unit} (clean : Workspace → Workspace)
    (hclean : ∀ w, result cleanup w = (.ok (), clean w)) (w : Workspace) :
    result (andFinally x cleanup) w = ((result x w).1, clean (result x w).2) := by
  unfold andFinally settle
  rw [result_bind, result_tryCatch, result_map]
  cases result x w with
  | mk outcome next =>
    cases outcome with
    | error e =>
      simp only [Except.map, result_pure, result_bind, hclean]
      rfl
    | ok a =>
      simp only [Except.map, result_bind, hclean]
      rfl

theorem result_andFinally_closeBook (x : Action α) (w : Workspace) :
    result (andFinally x (withExcel Excel.closeBook)) w =
      ((result x w).1, (result x w).2.afterRequests [.closeBook]) := by
  refine result_andFinally x (fun w => w.afterRequests [.closeBook]) (fun w => ?_) w
  rw [result_withExcel, Excel.result_closeBook]
  rfl

theorem result_andFinally_quit (x : Action α) (w : Workspace) :
    result (andFinally x (withExcel Excel.quit)) w =
      ((result x w).1,
        (result x w).2.afterRequests (result x w).2.excel.quitting) := by
  refine result_andFinally x (fun w => w.afterRequests w.excel.quitting) (fun w => ?_) w
  rw [result_withExcel, Excel.result_quit]
  rfl

theorem result_handled (x : Action α) (wrap : Error → Error) (w : Workspace) :
    result (tryCatch x fun e => throw (wrap e)) w =
      ((result x w).1.mapError wrap, (result x w).2) := by
  rw [result_tryCatch]
  cases result x w with
  | mk outcome next => cases outcome <;> rfl

/-- The error of an edit whose sheet is not offered. -/
def sheetFailure? (x : Excel) (title : String) : Option Error :=
  match x.setup.sheetsFault with
  | some f => some (.fault f)
  | none =>
    if title ∈ x.setup.sheets then none
    else some (.title (.unknown title x.setup.sheets.eraseDups))

theorem sheetFailure?_eq_none {x : Excel} {title : String} :
    sheetFailure? x title = none ↔ x.Offers title := by
  unfold sheetFailure? Excel.Offers
  cases x.setup.sheetsFault with
  | some f => exact ⟨nofun, nofun⟩
  | none => by_cases htitle : title ∈ x.setup.sheets <;> simp [htitle]

/-- A sheet that is not offered is found out before anything is edited. -/
theorem result_editOpenBook_missing {autoFormula : Bool} {p : Path} {title : String}
    (body : EditBody α) {w : Workspace} {e : Error} (h : sheetFailure? w.excel title = some e) :
    result (editOpenBook autoFormula p title body) w = (.error e, w) := by
  unfold sheetFailure? at h
  unfold editOpenBook
  rw [result_bind, result_withExcel, Excel.result_sheetNames]
  cases hsheets : w.excel.setup.sheetsFault with
  | some f =>
    rw [hsheets] at h
    cases h
    rfl
  | none =>
    rw [hsheets] at h
    by_cases htitle : title ∈ w.excel.setup.sheets
    · simp [htitle] at h
    · simp only [if_neg htitle, Option.some.injEq] at h
      simp only [mapError_ok, if_neg htitle, ← h]
      rfl

theorem result_runInExcel (autoFormula : Bool) (sheet : String) (body : EditBody α)
    (w : Workspace) :
    result (runInExcel autoFormula sheet body) w =
      ((result (body (Excel.updater autoFormula sheet)) w.excel).1,
        { w with excel := (result (body (Excel.updater autoFormula sheet)) w.excel).2 }) := by
  have hrun : (body (Excel.updater autoFormula sheet)).run.run w.excel =
      result (body (Excel.updater autoFormula sheet)) w.excel := rfl
  unfold runInExcel
  rw [result_get_bind, hrun]
  cases result (body (Excel.updater autoFormula sheet)) w.excel with
  | mk outcome x => cases outcome <;> rfl

/-- On a sheet that is offered the body runs. If it fails, nothing is saved. -/
theorem result_editOpenBook_error {autoFormula : Bool} {p : Path} {title : String}
    (body : EditBody α) {w : Workspace} {e : Error} {x : Excel} (h : w.excel.Offers title)
    (hbody : result (body (Excel.updater autoFormula title)) w.excel = (.error e, x)) :
    result (editOpenBook autoFormula p title body) w = (.error e, { w with excel := x }) := by
  unfold editOpenBook
  rw [result_bind, result_withExcel, Excel.result_sheetNames]
  simp only [h.1, mapError_ok, if_pos h.2, result_bind, result_runInExcel, hbody]

/-- If the body succeeds, the workbook is saved. -/
theorem result_editOpenBook_ok {autoFormula : Bool} {p : Path} {title : String}
    (body : EditBody α) {w : Workspace} {a : α} {x : Excel} (h : w.excel.Offers title)
    (hbody : result (body (Excel.updater autoFormula title)) w.excel = (.ok a, x)) :
    (result (editOpenBook autoFormula p title body) w).1 =
        (match x.fault? .saveBook with
          | some f => .error (.fault f)
          | none => .ok a) ∧
      (result (editOpenBook autoFormula p title body) w).2.excel = x.after .saveBook := by
  unfold editOpenBook Excel.saveBook
  rw [result_bind, result_withExcel, Excel.result_sheetNames]
  simp only [h.1, mapError_ok, if_pos h.2, result_bind, result_pure, result_runInExcel, hbody,
    result_withExcel, Excel.result_request]
  cases x.fault? .saveBook <;> exact ⟨rfl, rfl⟩

/-- Once the workbook is open, Excel edits it, closes it and quits. -/
theorem result_editInExcel (autoFormula : Bool) (p : Path) (title : String) (body : EditBody α)
    {w : Workspace} (hopen : w.excel.firstFault? (openingRequests p) = none) :
    let inside := result (editOpenBook autoFormula p title body)
      (w.afterRequests (openingRequests p))
    let closed := inside.2.afterRequests [.closeBook]
    result (editInExcel autoFormula p title body) w =
      (inside.1.mapError excelEditFailure, closed.afterRequests closed.excel.quitting) := by
  simp only [openingRequests, Excel.firstFault?_cons, Option.or_eq_none_iff] at hopen
  obtain ⟨hstart, halerts, hupdating, hbook, -⟩ := hopen
  have hopened : w.afterRequests (openingRequests p) =
      (((w.afterRequests [.start]).afterRequests [.setOption .displayAlerts false]).afterRequests
        [.setOption .screenUpdating false]).afterRequests [.openBook p.text false] := by
    simp only [← afterRequests_append]
    rfl
  unfold editInExcel Excel.start Excel.setOption Excel.openBook
  simp only [result_request_bind, hstart, halerts, hupdating, hbook, result_andFinally_quit,
    result_andFinally_closeBook, result_handled, hopened, excel_afterRequests, Excel.afterAll_cons,
    Excel.afterAll_nil]

/-- A row of requests that has a failure stops there, whatever is done after each of them. -/
theorem request_bind_fails {e : ExcelEvent} {later : List ExcelEvent} {g : Unit → Action α}
    {w : Workspace} {f : Fault} (hfault : w.excel.firstFault? (e :: later) = some f)
    (hlater : (w.afterRequests [e]).excel.firstFault? later = some f →
      (result (g ()) (w.afterRequests [e])).1 = .error (.fault f)) :
    (result (withExcel (Excel.request e) >>= g) w).1 = .error (.fault f) := by
  rw [Excel.firstFault?_cons] at hfault
  rw [result_request_bind]
  cases hfirst : w.excel.fault? e with
  | some found =>
    rw [hfirst, Option.some_or, Option.some.injEq] at hfault
    rw [hfault]
  | none =>
    rw [hfirst, Option.none_or] at hfault
    exact hlater hfault

/-- A failure while Excel opens the workbook is left as it is. -/
theorem result_editInExcel_unopened (autoFormula : Bool) (p : Path) (title : String)
    (body : EditBody α) {w : Workspace} {f : Fault}
    (hopen : w.excel.firstFault? (openingRequests p) = some f) :
    (result (editInExcel autoFormula p title body) w).1 = .error (.fault f) := by
  unfold editInExcel Excel.start Excel.setOption Excel.openBook
  refine request_bind_fails hopen fun halerts => request_bind_fails halerts fun hupdating =>
    request_bind_fails hupdating fun hbook => ?_
  rw [result_andFinally_quit]
  exact request_bind_fails hbook nofun

/-- A file with the name of a workbook, on a computer with this setup. -/
def bookWorkspace (setup : ExcelSetup) : Workspace :=
  .ofFiles ⟨[(["book.xlsx"], .file (.text ""))]⟩ setup

end WorkbookTools.Workspace
