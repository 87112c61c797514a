import WorkbookTools.Proofs.Workspace.ExcelSessions

/-!
# Which failures of Excel become errors of the edit

What Excel does for a batch besides the edits can fail too: the instance is started, its options are
set, the workbook is opened, its sheets are listed, and in the end it is saved. Only a part of these
steps lies where failures are turned into the error of an edit, and a refused value is not turned
into it even there.

* `FailsOutsideEdit`: the first failure of a batch, in one of these steps.
* `result_setCells_unopened`: a failure before the workbook is open.

Main statement: `outside_failure_is_wrapped_iff`.
-/

namespace WorkbookTools

open WorkbookTools.Action

/-- A step of a batch in Excel that is not part of applying an edit. -/
inductive ExcelStep where
  /-- A request by which the workbook is opened: an instance is started, an option is set, or the
  file is opened in it. -/
  | opening (request : ExcelEvent)
  | listing
  | saving
  deriving DecidableEq, Repr

/-- The failure of the step becomes the error of an edit. -/
def ExcelStep.IsWrapped (step : ExcelStep) (f : Fault) : Prop :=
  (step = .listing ∨ step = .saving) ∧ f.family ≠ .value

namespace Workspace

variable {policy : Option PathPolicy} {r : SetCellsRequest} {w start : Workspace} {p : Path}
  {available : Availability} {step : ExcelStep} {f : Fault}

/-- The first failure of a batch in Excel is this one, in this step. Everything before it has
succeeded, the edits included if the workbook is to be saved. -/
inductive FailsOutsideEdit (r : SetCellsRequest) (p : Path) (x : Excel) : ExcelStep → Fault → Prop
    where
  | opening {before later : List ExcelEvent} {e : ExcelEvent} {f : Fault}
      (hrow : openingRequests p = before ++ e :: later) (hbefore : x.firstFault? before = none)
      (hfault : (x.afterAll before).fault? e = some f) : FailsOutsideEdit r p x (.opening e) f
  | listing {f : Fault} (hopen : x.firstFault? (openingRequests p) = none)
      (hfault : x.setup.sheetsFault = some f) : FailsOutsideEdit r p x .listing f
  | saving {f : Fault} (hopen : x.firstFault? (openingRequests p) = none)
      (hoffers : x.Offers r.sheet)
      (hwritten : (x.afterAll (openingRequests p)).firstFault? (CellEdit.allRequests r.autoFormula
        r.sheet (Instruction.partition r.instructions).edits) = none)
      (hfault : ((x.afterAll (openingRequests p)).afterAll (CellEdit.allRequests r.autoFormula
        r.sheet (Instruction.partition r.instructions).edits)).fault? .saveBook = some f) :
      FailsOutsideEdit r p x .saving f

/-- A failure before the workbook is open is the error of the batch. -/
theorem result_setCells_unopened
    (hbegin : result (beginBatch policy r) w = (.ok (p, available, .excel), start))
    (hopen : start.excel.firstFault? (openingRequests p) = some f) :
    (result (setCells policy r) w).1 = .error (.fault f) := by
  rw [(result_setCells hbegin).1, editBatch, edit, result_editInExcel_unopened _ _ _ _ hopen]
  rfl

/-- In an open workbook the failure of the listing or of the save is what the edits give. -/
theorem editOutcome_of_failsOutsideEdit (hfails : FailsOutsideEdit r p start.excel step f)
    (hstep : step = .listing ∨ step = .saving) :
    start.excel.firstFault? (openingRequests p) = none ∧
      (start.excel.afterAll (openingRequests p)).editOutcome r.autoFormula r.sheet
        (Instruction.partition r.instructions).edits = .error (.fault f) := by
  cases hfails with
  | opening => simp at hstep
  | listing hopen hfault =>
    refine ⟨hopen, ?_⟩
    simp only [Excel.editOutcome, sheetFailure?, Excel.setup_afterAll, hfault]
  | saving hopen hoffers hwritten hfault =>
    refine ⟨hopen, ?_⟩
    have hsheet : sheetFailure? (start.excel.afterAll (openingRequests p)) r.sheet = none := by
      rw [sheetFailure?_eq_none]
      simpa [Excel.Offers] using hoffers
    simp only [Excel.editOutcome, hsheet, Excel.firstFailure?_eq_none.mpr hwritten, hfault]

theorem excelEditFailure_fault (f : Fault) :
    excelEditFailure (.fault f) = if f.family = .value then .fault f else .excelEdit f.message := by
  by_cases hvalue : f.family = .value
  · rw [if_pos hvalue]
    exact if_pos (decide_eq_true hvalue)
  · rw [if_neg hvalue]
    have hother : (Error.fault f).category.isValue = false := decide_eq_false hvalue
    rw [excelEditFailure, hother]
    rfl

/-- The error of a batch that fails outside its edits. -/
theorem result_setCells_of_failsOutsideEdit
    (hbegin : result (beginBatch policy r) w = (.ok (p, available, .excel), start))
    (hfails : FailsOutsideEdit r p start.excel step f) :
    (step.IsWrapped f → (result (setCells policy r) w).1 = .error (.excelEdit f.message)) ∧
      (¬ step.IsWrapped f → (result (setCells policy r) w).1 = .error (.fault f)) := by
  by_cases hstep : step = .listing ∨ step = .saving
  · obtain ⟨hopen, hedits⟩ := editOutcome_of_failsOutsideEdit hfails hstep
    have herror : (result (setCells policy r) w).1 = .error (excelEditFailure (.fault f)) := by
      rw [(result_setCells_excel hbegin hopen).1, hedits]
      rfl
    rw [herror, excelEditFailure_fault]
    constructor
    · rintro ⟨-, hother⟩
      rw [if_neg hother]
    · intro hnot
      rw [if_pos (not_not.mp fun hother => hnot ⟨hstep, hother⟩)]
  · refine ⟨fun hwrapped => absurd hwrapped.1 hstep, fun _ => ?_⟩
    cases hfails with
    | opening hrow hbefore hfault =>
      refine result_setCells_unopened hbegin ?_
      rw [hrow, Excel.firstFault?_append, hbefore, Excel.firstFault?_cons, hfault]
      rfl
    | listing => simp at hstep
    | saving => simp at hstep

/-- A failure of Excel outside the edits becomes the error of an edit, with its message behind that
of the batch, if and only if it comes from listing the sheets or from saving and is no refused
value. Every other failure, above all one from starting the instance, from setting its options or
from opening the workbook, ends the batch as it is. -/
theorem outside_failure_is_wrapped_iff (policy : Option PathPolicy) (r : SetCellsRequest)
    (w start : Workspace) (p : Path) (available : Availability) (step : ExcelStep) (f : Fault)
    (hbegin : result (beginBatch policy r) w = (.ok (p, available, .excel), start))
    (hfails : FailsOutsideEdit r p start.excel step f) :
    let outcome := (result (setCells policy r) w).1
    ((∃ e, outcome = .error e ∧ e.category = .runtime ∧
        e.message = "COM edit failed: " ++ f.message) ↔ step.IsWrapped f) ∧
      (¬ step.IsWrapped f → outcome = .error (.fault f)) := by
  intro outcome
  obtain ⟨hwrapped, hraw⟩ := result_setCells_of_failsOutsideEdit hbegin hfails
  refine ⟨⟨?_, fun h => ⟨_, hwrapped h, rfl, rfl⟩⟩, hraw⟩
  rintro ⟨e, he, -, hmessage⟩
  by_contra hnot
  -- A message does not begin with a longer one that ends in it.
  obtain rfl : e = .fault f := Except.error.inj (he.symm.trans (hraw hnot))
  have hlength := congrArg String.length hmessage
  rw [String.length_append] at hlength
  have hlead : "COM edit failed: ".length = 17 := rfl
  have hself : (Error.fault f).message = f.message := rfl
  rw [hself] at hlength
  omega

/-! ## Two failures -/

/-- The request for one edit by Excel. -/
def excelRequest : SetCellsRequest :=
  ⟨Path.ofText "/book.xlsx", "Sheet1", ["'a'@A1"], .only .excel, false⟩

/-- A computer with Excel, where these requests fail. -/
def failingWorkspace (openFault saveFault : Option Fault) : Workspace :=
  bookWorkspace { ExcelSetup.absent with platform := "win32", openFault, saveFault }

/-- A failed save is wrapped. -/
theorem failed_save_is_wrapped :
    let w := failingWorkspace none (some ⟨.other, "com_error", "Disk is full."⟩)
    ∃ e, (result (setCells none excelRequest) w).1 = .error e ∧ e.category = .runtime ∧
      e.message = "COM edit failed: Disk is full." := by
  intro w
  have hbegin : (result (beginBatch none excelRequest) w).1 =
      .ok (Path.ofText "/book.xlsx", ⟨true, none⟩, .excel) := by decide +kernel
  have hfails : FailsOutsideEdit excelRequest (Path.ofText "/book.xlsx")
      (result (beginBatch none excelRequest) w).2.excel .saving
      ⟨.other, "com_error", "Disk is full."⟩ :=
    .saving (by decide +kernel) (by decide +kernel) (by decide +kernel) (by decide +kernel)
  exact (outside_failure_is_wrapped_iff none excelRequest w _ _ _ _ _ (result_eq hbegin)
    hfails).1.mpr ⟨.inr rfl, nofun⟩

/-- A workbook that cannot be opened fails the batch with what Excel said, and nothing more. -/
theorem failed_opening_is_not_wrapped :
    let f : Fault := ⟨.other, "RuntimeError", "Call was rejected."⟩
    let w := failingWorkspace (some f) none
    FailsOutsideEdit excelRequest (Path.ofText "/book.xlsx")
        (result (beginBatch none excelRequest) w).2.excel
        (.opening (.openBook "/book.xlsx" false)) f ∧
      (result (beginBatch none excelRequest) w).1 =
        .ok (Path.ofText "/book.xlsx", ⟨true, none⟩, .excel) ∧
      (result (setCells none excelRequest) w).1 = .error (.fault f) ∧
      (Error.fault f).message ≠ "COM edit failed: Call was rejected." := by
  intro f w
  have hrow : openingRequests (Path.ofText "/book.xlsx") =
      [.start, .setOption .displayAlerts false, .setOption .screenUpdating false] ++
        .openBook "/book.xlsx" false :: [] := by decide +kernel
  exact ⟨.opening hrow (by decide +kernel) (by decide +kernel), by decide +kernel,
    by decide +kernel, by decide +kernel⟩

end Workspace

end WorkbookTools
