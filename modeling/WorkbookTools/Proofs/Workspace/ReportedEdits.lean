import WorkbookTools.Proofs.Excel.Edits
import WorkbookTools.Proofs.Instruction.Partition
import WorkbookTools.Proofs.Workspace.Batches
import WorkbookTools.Proofs.Workspace.FailedEdits

/-!
# Which failures are reported with their instruction

When an engine fails to carry out an instruction of a batch, the error should name the instruction
and its cell. It does so for refused values only: a control character in a text is no such value for
the file engine, and neither are the other failures of Excel.

* `CellEdit.applyAll_failed`: a row of edits ends with the first one that fails.
* `failed_instruction_is_reported_iff`: the error of a batch names the instruction that failed, if
  and only if the engine refused a value.
* `control_character_is_not_reported`: a failure that loses its instruction, for each engine.
-/

namespace WorkbookTools

open WorkbookTools.Action

/-! ## The first instruction that fails -/

namespace Instruction

/-- The edits of a batch, split at one of its accepted instructions. -/
theorem edits_of_parse {instructions : List String} {k : Nat} {text : String} {e : CellEdit}
    (htext : instructions[k]? = some text) (hparse : parse k text = .ok e) :
    ∃ later, (partition instructions).edits =
      (partition (instructions.take k)).edits ++ e :: later := by
  obtain ⟨hk, rfl⟩ := List.getElem?_eq_some_iff.mp htext
  let later := (instructions.drop (k + 1)).mapIdx fun i => parse (i + 1 + k)
  have hsplit : instructions =
      instructions.take k ++ instructions[k] :: instructions.drop (k + 1) := by
    rw [← List.drop_eq_getElem_cons hk, List.take_append_drop]
  have hlength : (instructions.take k).length = k := List.length_take_of_le (Nat.le_of_lt hk)
  have hresults : parseAll instructions = parseAll (instructions.take k) ++ .ok e :: later := by
    refine (congrArg parseAll hsplit).trans ?_
    simp only [parseAll, List.mapIdx_append, List.mapIdx_cons, hlength, Nat.zero_add, hparse, later]
  refine ⟨accepted later, ?_⟩
  simp only [partition, accepted, hresults, List.filterMap_append, List.filterMap_cons]

end Instruction

namespace CellEdit

variable {σ : Type} {update : Updater σ}

/-- A row of edits ends with the first one that fails. -/
theorem applyAll_failed {before later : List CellEdit} {applied : List AppliedEdit} {e : CellEdit}
    {cause : Error} {s next last : σ}
    (hbefore : result (applyAll update before) s = (.ok applied, next))
    (hfailed : result (e.apply update) next = (.error cause, last)) :
    result (applyAll update (before ++ e :: later)) s = (.error (e.failure cause), last) := by
  induction before generalizing s applied with
  | nil =>
    cases hbefore
    rw [List.nil_append]
    unfold applyAll applyReported
    rw [result_bind, result_tryCatch, hfailed]
    rfl
  | cons first rest ih =>
    unfold applyAll at hbefore
    obtain ⟨done, middle, hfirst, hbefore⟩ := bind_ok.mp hbefore
    obtain ⟨others, _, hrest, hend⟩ := bind_ok.mp hbefore
    cases hend
    have htail := ih hrest
    rw [List.cons_append]
    unfold applyAll
    rw [result_bind, hfirst]
    simp only [result_bind, htail]

/-- An accepted instruction fails, as the first one of its batch. -/
def FailsAt (update : Updater σ) (instructions : List String) (s : σ) (k : Nat) (e : CellEdit)
    (cause : Error) : Prop :=
  (∃ text, instructions[k]? = some text ∧ Instruction.parse k text = .ok e) ∧
    ∃ applied next last,
      result (applyAll update (Instruction.partition (instructions.take k)).edits) s =
        (.ok applied, next) ∧
      result (e.apply update) next = (.error cause, last)

/-- The failure of an instruction is the failure of its batch. -/
theorem FailsAt.applyAll {instructions : List String} {s : σ} {k : Nat} {e : CellEdit}
    {cause : Error} (h : FailsAt update instructions s k e cause) :
    e.index = k ∧ ∃ last,
      result (applyAll update (Instruction.partition instructions).edits) s =
        (.error (e.failure cause), last) := by
  obtain ⟨⟨text, htext, hparse⟩, applied, next, last, hbefore, hfailed⟩ := h
  obtain ⟨later, hedits⟩ := Instruction.edits_of_parse htext hparse
  rw [hedits]
  exact ⟨Instruction.index_of_parse hparse, last, applyAll_failed hbefore hfailed⟩

end CellEdit

/-! ## The engines -/

namespace Engine

/-- What an engine works on: a sheet in memory, or Excel. -/
def State : Engine → Type
  | file => Sheet
  | excel => Excel

/-- How an engine carries out an update. -/
def updater (autoFormula : Bool) (title : String) : (engine : Engine) → Updater engine.State
  | file => Sheet.updater autoFormula
  | excel => Excel.updater autoFormula title

/-- The failures that count as refused values. -/
def Reports : Engine → Error → Prop
  | file, cause => ∀ text, cause ≠ .sheet (.illegalCharacter text)
  | excel, cause => ∃ f, cause = .fault f ∧ (f.family = .value ∨ f.family = .type)

/-- The error of a batch when the engine fails otherwise than by refusing a value. -/
def unreported : Engine → Error → Error
  | file, cause => cause
  | excel, cause => .excelEdit cause.message

end Engine

namespace CellEdit

variable {autoFormula : Bool} {e : CellEdit} {cause : Error}

theorem failure_of_refusal (h : cause.category.isRefusal = true) :
    e.failure cause = .edit e.index e.cell cause.message := if_pos h

theorem failure_of_other (h : cause.category.isRefusal = false) : e.failure cause = cause :=
  if_neg (by simp [h])

theorem isRefusal_fault (f : Fault) :
    (Error.fault f).category.isRefusal = true ↔ f.family = .value ∨ f.family = .type := by
  simp [Error.category, ErrorCategory.isRefusal, ErrorCategory.isValue]

/-- A sheet in memory refuses values, but for texts with control characters. -/
theorem isRefusal_of_apply {s last : Sheet}
    (h : result (e.apply (Sheet.updater autoFormula)) s = (.error cause, last)) :
    cause.category.isRefusal = true ↔ Engine.file.Reports cause := by
  obtain ⟨refusal, rfl, hunsaved⟩ := Workspace.apply_error h
  cases refusal with
  | belowOne => exact ⟨fun _ _ => nofun, fun _ => rfl⟩
  | rowOutOfRange row => exact ⟨fun _ _ => nofun, fun _ => rfl⟩
  | illegalCharacter text => exact ⟨nofun, fun hother => absurd rfl (hother text)⟩
  | unsavableColumn column => cases hunsaved
  | unsavableNumber => cases hunsaved

/-- Excel fails in its own ways only. -/
theorem fault_of_apply {title : String} {x last : Excel}
    (h : result (e.apply (Excel.updater autoFormula title)) x = (.error cause, last)) :
    ∃ f, cause = .fault f := by
  rw [Excel.result_apply] at h
  cases hfault : x.firstFault? (e.requests autoFormula title) with
  | none =>
    rw [hfault] at h
    cases h
  | some f =>
    rw [hfault] at h
    cases h
    exact ⟨f, rfl⟩

end CellEdit

/-! ## The error of a batch -/

namespace Workspace

open CellEdit

/-- The engine of the batch has opened the sheet. -/
inductive OpensSheet (policy : Option PathPolicy) (r : SetCellsRequest) (w : Workspace) :
    (engine : Engine) → engine.State → Prop where
  | file {p : Path} {available : Availability} {start : Workspace} {book : Workbook} {sheet : Sheet}
      (hbegin : result (beginBatch policy r) w = (.ok (p, available, .file), start))
      (hload : loaded p start.files = .ok book) (hsheet : book.sheet r.sheet = .ok sheet) :
      OpensSheet policy r w .file sheet
  | excel {p : Path} {available : Availability} {start : Workspace}
      (hbegin : result (beginBatch policy r) w = (.ok (p, available, .excel), start))
      (hopen : start.excel.firstFault? (openingRequests p) = none)
      (hoffers : start.excel.Offers r.sheet) :
      OpensSheet policy r w .excel (start.excel.afterAll (openingRequests p))

/-- Excel keeps the errors of refused values, also when they name an instruction, and hides all
others. -/
theorem excelEditFailure_failure (e : CellEdit) (f : Fault) :
    excelEditFailure (e.failure (.fault f)) =
      if f.family = .value ∨ f.family = .type then .edit e.index e.cell f.message
      else .excelEdit f.message := by
  by_cases hrefusal : f.family = .value ∨ f.family = .type
  · rw [if_pos hrefusal, failure_of_refusal ((isRefusal_fault f).mpr hrefusal)]
    rfl
  · have hother : (Error.fault f).category.isRefusal = false := by
      rw [← Bool.not_eq_true, isRefusal_fault]
      exact hrefusal
    have hvalue : (Error.fault f).category.isValue = false :=
      decide_eq_false (not_or.mp hrefusal).1
    rw [if_neg hrefusal, failure_of_other hother, excelEditFailure, hvalue]
    rfl

variable {policy : Option PathPolicy} {r : SetCellsRequest} {w : Workspace} {k : Nat}
  {e : CellEdit} {cause : Error}

theorem result_setCells_of_file {sheet : Sheet} (hopens : OpensSheet policy r w .file sheet)
    (hfails : FailsAt (Sheet.updater r.autoFormula) r.instructions sheet k e cause) :
    (result (setCells policy r) w).1 = .error (e.failure cause) := by
  cases hopens with
  | file hbegin hload hsheet =>
    obtain ⟨-, last, hbody⟩ := hfails.applyAll
    rw [(result_setCells hbegin).1, editBatch, edit, result_editFile_error hload hsheet hbody]
    rfl

theorem result_setCells_of_excel {x : Excel} (hopens : OpensSheet policy r w .excel x)
    (hfails : FailsAt (Excel.updater r.autoFormula r.sheet) r.instructions x k e cause) :
    (result (setCells policy r) w).1 = .error (excelEditFailure (e.failure cause)) := by
  cases hopens with
  | excel hbegin hopen hoffers =>
    obtain ⟨-, last, hbody⟩ := hfails.applyAll
    have hopened : ∀ {start : Workspace} {p : Path}, start.excel.Offers r.sheet →
        (start.afterRequests (openingRequests p)).excel.Offers r.sheet := by
      intro start p hstart
      simpa [Excel.Offers] using hstart
    rw [(result_setCells hbegin).1, editBatch, edit, result_editInExcel _ _ _ _ hopen,
      result_editOpenBook_error _ (hopened hoffers) hbody]
    rfl

/-- The error of the batch whose instruction has failed. -/
theorem result_setCells_of_failsAt {engine : Engine} {s : engine.State}
    (hopens : OpensSheet policy r w engine s)
    (hfails : FailsAt (engine.updater r.autoFormula r.sheet) r.instructions s k e cause) :
    (engine.Reports cause →
        (result (setCells policy r) w).1 = .error (.edit k e.cell cause.message)) ∧
      (¬ engine.Reports cause →
        (result (setCells policy r) w).1 = .error (engine.unreported cause)) := by
  obtain ⟨rfl, -⟩ := hfails.applyAll
  obtain ⟨applied, next, last, -, hfailed⟩ := hfails.2
  cases engine with
  | file =>
    have hrefusal := isRefusal_of_apply hfailed
    rw [result_setCells_of_file hopens hfails]
    constructor
    · intro hreports
      rw [failure_of_refusal (hrefusal.mpr hreports)]
    · intro hother
      rw [failure_of_other (Bool.not_eq_true _ ▸ hrefusal.not.mpr hother)]
      rfl
  | excel =>
    obtain ⟨f, rfl⟩ := fault_of_apply hfailed
    rw [result_setCells_of_excel hopens hfails, excelEditFailure_failure]
    constructor
    · rintro ⟨_, hf, hrefusal⟩
      cases hf
      rw [if_pos hrefusal]
      rfl
    · intro hother
      rw [if_neg fun hrefusal => hother ⟨f, rfl, hrefusal⟩]
      rfl

/-- An accepted instruction that fails after all earlier ones have succeeded is named in the error
of the batch, with its index and its cell, if and only if the engine has refused a value. Otherwise
the error is the failure of the file engine as it is, or what Excel said without the instruction. -/
theorem failed_instruction_is_reported_iff (policy : Option PathPolicy) (r : SetCellsRequest)
    (w : Workspace) (engine : Engine) (s : engine.State) (k : Nat) (e : CellEdit) (cause : Error)
    (hopens : OpensSheet policy r w engine s)
    (hfails : FailsAt (engine.updater r.autoFormula r.sheet) r.instructions s k e cause) :
    ((∃ reason, (result (setCells policy r) w).1 = .error (.edit k e.cell reason)) ↔
        engine.Reports cause) ∧
      (engine.Reports cause →
        (result (setCells policy r) w).1 = .error (.edit k e.cell cause.message)) ∧
      (¬ engine.Reports cause →
        (result (setCells policy r) w).1 = .error (engine.unreported cause)) := by
  obtain ⟨hreported, hunreported⟩ := result_setCells_of_failsAt hopens hfails
  refine ⟨⟨?_, fun hreports => ⟨cause.message, hreported hreports⟩⟩, hreported, hunreported⟩
  rintro ⟨reason, hnamed⟩
  by_contra hother
  rw [hunreported hother] at hnamed
  cases engine with
  | file =>
    obtain ⟨applied, next, last, -, hfailed⟩ := hfails.2
    obtain ⟨refusal, rfl, -⟩ := apply_error hfailed
    cases hnamed
  | excel => cases hnamed

/-! ## Three instructions that fail -/

/-- A request to edit the workbook of `keptWorkspace`. -/
def keptRequest (engine : Engine) (instructions : List String) : SetCellsRequest :=
  ⟨Path.ofText "/book.xlsx", "Sheet1", instructions, .only engine, false⟩

/-- The sheet of that workbook. -/
def keptSheet : Sheet := Sheet.empty.setCell 1 1 ⟨.text, .text "kept", .default⟩

/-- The edit of a cell whose row is beyond the last one. -/
def lowEdit : CellEdit :=
  ⟨2, ⟨1048577, 1, by decide, by decide, Nat.one_pos, by decide⟩, some "b",
    StyleRequest.ofTokens [], none, none⟩

/-- The row of the last instruction is beyond the last one. -/
theorem row_beyond_last_is_reported :
    let r := keptRequest .file ["'x'", "'a'@A1", "'b'@A1048577"]
    OpensSheet none r keptWorkspace .file keptSheet ∧
      FailsAt (Sheet.updater false) r.instructions keptSheet 2 lowEdit
        (.sheet (.rowOutOfRange 1048577)) ∧
      (result (setCells none r) keptWorkspace).1 = .error (.edit 2 "A1048577"
        "Row numbers must be between 1 and 1048576. Row number supplied was 1048577") := by
  intro r
  have hbegin : (result (beginBatch none r) keptWorkspace).1 =
      .ok (Path.ofText "/book.xlsx", ⟨false, some "Excel COM requires Windows."⟩, .file) := by
    decide +kernel
  have hload : loaded (Path.ofText "/book.xlsx")
      (result (beginBatch none r) keptWorkspace).2.files = .ok keptBook := by decide +kernel
  have hopens : OpensSheet none r keptWorkspace .file keptSheet :=
    .file (result_eq hbegin) hload (by decide +kernel)
  have hfails : FailsAt (Sheet.updater false) r.instructions keptSheet 2 lowEdit
      (.sheet (.rowOutOfRange 1048577)) :=
    ⟨⟨"'b'@A1048577", rfl, by decide +kernel⟩, [⟨1, "A1", [.content]⟩], _, _,
      result_eq (by decide +kernel), result_eq (by decide +kernel)⟩
  have hreported := (failed_instruction_is_reported_iff none r keptWorkspace .file keptSheet 2
    lowEdit _ hopens hfails).2.1 nofun
  have hcell : lowEdit.cell = "A1048577" := by decide +kernel
  have hmessage : (Error.sheet (.rowOutOfRange 1048577)).message =
      "Row numbers must be between 1 and 1048576. Row number supplied was 1048577" := by
    decide +kernel
  rw [hcell, hmessage] at hreported
  exact ⟨hopens, hfails, hreported⟩

/-- The same workbook on a computer with Excel, where no value can be set. -/
def stuckWorkspace : Workspace :=
  { keptWorkspace with excel := .ofSetup { ExcelSetup.absent with
    platform := "win32"
    attributeFaults := [("value", ⟨.other, "com_error", "Call was rejected."⟩)] } }

/-- The edit of the first cell by an instruction with this content. -/
def firstCellEdit (content : String) : CellEdit :=
  ⟨0, ⟨1, 1, Nat.one_pos, by decide, Nat.one_pos, by decide⟩, some content,
    StyleRequest.ofTokens [], none, none⟩

/-- A text with a control character is refused by the file engine, and Excel rejects a call. Neither
error names the instruction. -/
theorem control_character_is_not_reported :
    let control := keptRequest .file ["'\x01'@A1"]
    let plain := keptRequest .excel ["'a'@A1"]
    (OpensSheet none control keptWorkspace .file keptSheet ∧
      FailsAt (Sheet.updater false) control.instructions keptSheet 0 (firstCellEdit "\x01")
        (.sheet (.illegalCharacter "\x01")) ∧
      (result (setCells none control) keptWorkspace).1 =
        .error (.sheet (.illegalCharacter "\x01"))) ∧
    ∃ x, OpensSheet none plain stuckWorkspace .excel x ∧
      FailsAt (Excel.updater false "Sheet1") plain.instructions x 0 (firstCellEdit "a")
        (.fault ⟨.other, "com_error", "Call was rejected."⟩) ∧
      (result (setCells none plain) stuckWorkspace).1 =
        .error (.excelEdit "Call was rejected.") := by
  intro control plain
  constructor
  · have hbegin : (result (beginBatch none control) keptWorkspace).1 =
        .ok (Path.ofText "/book.xlsx", ⟨false, some "Excel COM requires Windows."⟩, .file) := by
      decide +kernel
    have hload : loaded (Path.ofText "/book.xlsx")
        (result (beginBatch none control) keptWorkspace).2.files = .ok keptBook := by
      decide +kernel
    refine ⟨.file (result_eq hbegin) hload (by decide +kernel), ?_, by decide +kernel⟩
    exact ⟨⟨"'\x01'@A1", rfl, by decide +kernel⟩, [], _, _, rfl, result_eq (by decide +kernel)⟩
  · have hbegin : (result (beginBatch none plain) stuckWorkspace).1 =
        .ok (Path.ofText "/book.xlsx", ⟨true, none⟩, .excel) := by decide +kernel
    refine ⟨_, .excel (result_eq hbegin) (by decide +kernel) (by decide +kernel), ?_,
      by decide +kernel⟩
    exact ⟨⟨"'a'@A1", rfl, by decide +kernel⟩, [], _, _, rfl, result_eq (by decide +kernel)⟩

end Workspace

end WorkbookTools
