import WorkbookTools.Proofs.Editing.Mentions
import WorkbookTools.Proofs.Excel.Edits
import WorkbookTools.Proofs.Workspace.Batches

/-!
# A batch in Excel

Once the workbook of a batch is open in Excel, the properties are written in order up to the first
failure. The workbook is saved if nothing has failed, closed in every case, and then the instance
quits. Failures at the end change neither the answer nor the error.

* `Excel.editOutcome`: what the edits of an open workbook give, whatever happens at the end.
* `excel_batch_saves_iff_all_written`: the requests of a batch after the opening, and its outcome.
-/

namespace WorkbookTools

open WorkbookTools.Action

/-- The requests of an edit: its mentions in the fixed order of the attributes. -/
theorem CellEdit.requests_eq (autoFormula : Bool) (sheet : String) (e : CellEdit) :
    e.requests autoFormula sheet =
      (EditField.all.filterMap e.mention).flatMap fun u =>
        u.requests autoFormula sheet e.address.row e.address.column := by
  have hmentions : e.updates.map (·.2) = EditField.all.filterMap e.mention := by
    rw [updates_eq, List.map_filterMap]
    congr 1
    funext f
    cases e.mention f <;> rfl
  rw [← hmentions, List.flatMap_map]
  rfl

namespace Excel

/-- Excel has the same sheets, and the same requests of the row fail. -/
structure AnswersAs (x y : Excel) (events : List ExcelEvent) : Prop where
  sheets : x.setup.sheets = y.setup.sheets
  sheetsFault : x.setup.sheetsFault = y.setup.sheetsFault
  replies : x.replies events = y.replies events

/-- What the edits of an open workbook give: the error of the sheet, of the first edit that fails or
of the save, or what has been applied. -/
def editOutcome (x : Excel) (autoFormula : Bool) (title : String) (edits : List CellEdit) :
    Except Error (List AppliedEdit) :=
  match Workspace.sheetFailure? x title with
  | some e => .error e
  | none =>
    match x.firstFailure? autoFormula title edits with
    | some (e, f) => .error (e.failure (.fault f))
    | none =>
      match (x.afterAll (CellEdit.allRequests autoFormula title edits)).fault? .saveBook with
      | some f => .error (.fault f)
      | none => .ok (edits.map CellEdit.applied)

/-- The writes of the edits up to the first failure, and one save if nothing has failed. -/
def editRequests (x : Excel) (autoFormula : Bool) (title : String) (edits : List CellEdit) :
    List ExcelEvent :=
  let writes := CellEdit.allRequests autoFormula title edits
  (if x.Offers title then x.attempted writes else []) ++
    if x.Offers title ∧ x.firstFault? writes = none then [.saveBook] else []

theorem firstFailure?_congr {x y : Excel} {autoFormula : Bool} {title : String}
    {edits : List CellEdit}
    (h : x.replies (CellEdit.allRequests autoFormula title edits) =
      y.replies (CellEdit.allRequests autoFormula title edits)) :
    x.firstFailure? autoFormula title edits = y.firstFailure? autoFormula title edits := by
  induction edits generalizing x y with
  | nil => rfl
  | cons e rest ih =>
    obtain ⟨hfirst, hrest⟩ := replies_append_inj h
    have hfault : x.firstFault? (e.requests autoFormula title) =
        y.firstFault? (e.requests autoFormula title) := by
      rw [firstFault?, hfirst, ← firstFault?]
    unfold firstFailure?
    rw [hfault, ih hrest]

/-- Only the sheets, the writes and the save matter for what edits give. -/
theorem editOutcome_congr {x y : Excel} {autoFormula : Bool} {title : String}
    {edits : List CellEdit}
    (h : x.AnswersAs y (CellEdit.allRequests autoFormula title edits ++ [.saveBook])) :
    x.editOutcome autoFormula title edits = y.editOutcome autoFormula title edits := by
  obtain ⟨hwrites, hsave⟩ := replies_append_inj h.replies
  have hfault : (x.afterAll (CellEdit.allRequests autoFormula title edits)).fault? .saveBook =
      (y.afterAll (CellEdit.allRequests autoFormula title edits)).fault? .saveBook := by
    simpa [Excel.replies] using hsave
  have hsheet : Workspace.sheetFailure? x title = Workspace.sheetFailure? y title := by
    rw [Workspace.sheetFailure?, h.sheets, h.sheetsFault, ← Workspace.sheetFailure?]
  rw [editOutcome, hsheet, firstFailure?_congr hwrites, hfault, ← editOutcome]

/-- Edits give something if the sheet is there and neither a write nor the save fails. -/
theorem editOutcome_ok_iff {x : Excel} {autoFormula : Bool} {title : String}
    {edits : List CellEdit} :
    (∃ applied, x.editOutcome autoFormula title edits = .ok applied) ↔
      x.Offers title ∧
        x.firstFault? (CellEdit.allRequests autoFormula title edits ++ [.saveBook]) = none := by
  have hsave : ∀ y : Excel, y.firstFault? [.saveBook] = y.fault? .saveBook := fun y => by
    rw [firstFault?_cons]
    exact Option.or_none
  rw [← Workspace.sheetFailure?_eq_none, firstFault?_append, hsave, editOutcome,
    Option.or_eq_none_iff, ← firstFailure?_eq_none]
  cases Workspace.sheetFailure? x title with
  | some e => simp
  | none =>
    cases x.firstFailure? autoFormula title edits with
    | some failed => simp
    | none =>
      cases (x.afterAll (CellEdit.allRequests autoFormula title edits)).fault? .saveBook <;> simp

end Excel

namespace Workspace

variable {policy : Option PathPolicy} {r : SetCellsRequest} {w : Workspace} {p : Path}
  {available : Availability}

/-- Edits on an open workbook. -/
theorem result_editOpenBook_applyAll (autoFormula : Bool) (p : Path) (title : String)
    (edits : List CellEdit) (w : Workspace) :
    let edited := result
      (editOpenBook autoFormula p title fun update => CellEdit.applyAll update edits) w
    edited.1 = w.excel.editOutcome autoFormula title edits ∧
      edited.2.excel = w.excel.afterAll (w.excel.editRequests autoFormula title edits) := by
  intro edited
  let body : EditBody (List AppliedEdit) := fun update => CellEdit.applyAll update edits
  have hbody : result (body (Excel.updater autoFormula title)) w.excel = _ :=
    Excel.result_applyAll autoFormula title edits w.excel
  unfold Excel.editOutcome Excel.editRequests
  cases hsheet : sheetFailure? w.excel title with
  | some e =>
    have hmissing : ¬ w.excel.Offers title := by
      rw [← sheetFailure?_eq_none, hsheet]
      exact nofun
    have hedited : edited = (.error e, w) := result_editOpenBook_missing body hsheet
    simp [hedited, hmissing]
  | none =>
    have hoffers : w.excel.Offers title := sheetFailure?_eq_none.mp hsheet
    cases hfailure : w.excel.firstFailure? autoFormula title edits with
    | some failed =>
      have hfault : w.excel.firstFault? (CellEdit.allRequests autoFormula title edits) ≠ none := by
        rw [Ne, ← Excel.firstFailure?_eq_none, hfailure]
        exact nofun
      rw [hfailure] at hbody
      have hedited : edited = _ := result_editOpenBook_error body hoffers hbody
      simp [hedited, hoffers, hfault]
    | none =>
      have hfault := Excel.firstFailure?_eq_none.mp hfailure
      rw [hfailure, Excel.attempted_of_firstFault?_none hfault] at hbody
      obtain ⟨hsaved, hexcel⟩ := result_editOpenBook_ok (p := p) body hoffers hbody
      refine ⟨hsaved, hexcel.trans ?_⟩
      simp [hoffers, hfault, Excel.attempted_of_firstFault?_none hfault]

/-- A batch in Excel, from the opened workbook to the end of the instance. -/
theorem result_setCells_excel {start : Workspace}
    (hbegin : result (beginBatch policy r) w = (.ok (p, available, .excel), start))
    (hopen : start.excel.firstFault? (openingRequests p) = none) :
    let opened := start.excel.afterAll (openingRequests p)
    let edits := (Instruction.partition r.instructions).edits
    let closed := opened.afterAll
      (opened.editRequests r.autoFormula r.sheet edits ++ [.closeBook])
    (result (setCells policy r) w).1 =
        ((opened.editOutcome r.autoFormula r.sheet edits).mapError excelEditFailure).map
          (answerOf r p available .excel) ∧
      (result (setCells policy r) w).2.excel = closed.afterAll closed.quitting := by
  intro opened edits closed
  obtain ⟨houtcome, hexcel⟩ := result_editOpenBook_applyAll r.autoFormula p r.sheet edits
    (start.afterRequests (openingRequests p))
  rw [excel_afterRequests] at houtcome hexcel
  have hedited := result_editInExcel r.autoFormula p r.sheet
    (fun update => CellEdit.applyAll update edits) hopen
  have hclosed : (result (editOpenBook r.autoFormula p r.sheet fun update =>
      CellEdit.applyAll update edits) (start.afterRequests (openingRequests p))).2.excel.afterAll
        [.closeBook] = closed := by
    rw [hexcel, ← Excel.afterAll_append]
  obtain ⟨hanswer, hlast⟩ := result_setCells hbegin
  rw [hanswer, hlast, editBatch, edit, hedited]
  constructor
  · rw [houtcome]
  · rw [excel_afterRequests, excel_afterRequests, hclosed]

/-- Once its workbook is open in Excel, a batch writes the attributes of its edits in order up to
the first failure, saves if and only if the sheet was there and all was written, closes the workbook
and quits, or kills the instance if that fails. It succeeds if the save does, too, and how closing,
quitting and killing go makes no difference to its outcome. -/
theorem excel_batch_saves_iff_all_written (policy : Option PathPolicy) (r : SetCellsRequest)
    (w start : Workspace) (p : Path) (available : Availability)
    (hbegin : result (beginBatch policy r) w = (.ok (p, available, .excel), start))
    (hopen : start.excel.firstFault? (openingRequests p) = none) :
    let opened := start.excel.afterAll (openingRequests p)
    let writes := (Instruction.partition r.instructions).edits.flatMap fun e =>
      (EditField.all.filterMap e.mention).flatMap fun u =>
        u.requests r.autoFormula r.sheet e.address.row e.address.column
    let made := if opened.Offers r.sheet then opened.attempted writes else []
    let saves :=
      if opened.Offers r.sheet ∧ opened.firstFault? writes = none then [.saveBook] else []
    let closed := opened.afterAll (made ++ saves ++ [.closeBook])
    let final := result (setCells policy r) w
    final.2.excel.events = opened.events ++ made ++ saves ++ [.closeBook] ++
        (if closed.fault? .quit = none then [.quit] else [.quit, .kill]) ∧
      ((∃ answer, final.1 = .ok answer) ↔
        opened.Offers r.sheet ∧ opened.firstFault? (writes ++ [.saveBook]) = none) ∧
      ∀ w' start', result (beginBatch policy r) w' = (.ok (p, available, .excel), start') →
        start'.excel.firstFault? (openingRequests p) = none →
        (start'.excel.afterAll (openingRequests p)).AnswersAs opened (writes ++ [.saveBook]) →
        (result (setCells policy r) w').1 = final.1 := by
  intro opened writes made saves closed final
  let edits := (Instruction.partition r.instructions).edits
  have hwrites : CellEdit.allRequests r.autoFormula r.sheet edits = writes :=
    congrArg (fun f => edits.flatMap f) (funext (CellEdit.requests_eq r.autoFormula r.sheet))
  have hrequests : opened.editRequests r.autoFormula r.sheet edits = made ++ saves := by
    rw [Excel.editRequests, hwrites]
  obtain ⟨houtcome, hexcel⟩ := result_setCells_excel hbegin hopen
  refine ⟨?_, ?_, fun w' start' hbegin' hopen' hanswers => ?_⟩
  · rw [hexcel, hrequests, Excel.events_afterAll, Excel.events_afterAll]
    have hquitting : closed.quitting =
        if closed.fault? .quit = none then [.quit] else [.quit, .kill] := by
      unfold Excel.quitting
      cases closed.fault? .quit <;> rfl
    rw [hquitting]
    simp only [List.append_assoc]
    rfl
  · rw [houtcome, ← hwrites, ← Excel.editOutcome_ok_iff]
    cases opened.editOutcome r.autoFormula r.sheet edits <;> simp [Except.map, Except.mapError]
  · rw [← hwrites] at hanswers
    rw [(result_setCells_excel hbegin' hopen').1, houtcome, Excel.editOutcome_congr hanswers]

/-! ## A session with failures -/

/-- A computer with Excel, where italics cannot be set and no instance closes or quits in an orderly
way. -/
def stubbornWorkspace : Workspace :=
  bookWorkspace { ExcelSetup.absent with
    platform := "win32"
    attributeFaults := [("Italic", ⟨.other, "com_error", "Call was rejected."⟩)]
    closeFault := some ⟨.other, "com_error", "Close failed."⟩
    quitFault := some ⟨.other, "com_error", "Quit failed."⟩ }

/-- The request for a batch whose second edit sets italics. -/
def italicRequest : SetCellsRequest :=
  ⟨Path.ofText "/book.xlsx", "Sheet1", ["'=a'@A1#B", "'lost'A1", "@B2#I", "@C3#U"], .auto, false⟩

/-- After the failure of the second edit nothing is written and nothing is saved. -/
theorem failed_italics_are_not_saved :
    (∀ answer, (result (setCells none italicRequest) stubbornWorkspace).1 ≠ .ok answer) ∧
      (result (setCells none italicRequest) stubbornWorkspace).2.excel.events =
        [.start, .quit, .kill] ++ openingRequests (Path.ofText "/book.xlsx") ++
          [.setCell "Sheet1" 1 1 (.numberFormat "@"), .setCell "Sheet1" 1 1 (.value "=a"),
            .setCell "Sheet1" 1 1 (.bold true), .setCell "Sheet1" 2 2 (.italic true)] ++
          [.closeBook, .quit, .kill] := by
  have hbegin : (result (beginBatch none italicRequest) stubbornWorkspace).1 =
      .ok (Path.ofText "/book.xlsx", ⟨true, none⟩, .excel) := by decide +kernel
  obtain ⟨hevents, hok, -⟩ := excel_batch_saves_iff_all_written none italicRequest
    stubbornWorkspace _ _ _ (result_eq hbegin) (by decide +kernel)
  refine ⟨fun answer hanswer => ?_, hevents.trans (by decide +kernel)⟩
  have hwritten := hok.mp ⟨answer, hanswer⟩
  revert hwritten
  decide +kernel

end Workspace

end WorkbookTools
