import WorkbookTools.Proofs.Address
import WorkbookTools.Proofs.Instruction.Partition
import WorkbookTools.Proofs.Outcomes
import WorkbookTools.Proofs.Workspace.Batches
import WorkbookTools.Proofs.Workspace.FailedEdits

/-!
# What the answer to a batch accounts for

Every instruction of a batch is in its answer once, as an edit that was applied or as one that was
skipped. Which edits are applied does not depend on the engine: neither engine adds edits, leaves
one out or changes their order, and a batch with an edit that fails has no answer.

* `CellEdit.gives_applyAll`: edits that are all applied are reported in their order.
* `gives_edit`: an engine gives what the body of updates gives.

Main statement: `batch_accounts_for_instructions`.
-/

namespace WorkbookTools

open WorkbookTools.Action

/-! ## Edits -/

theorem CellEdit.gives_applyReported {σ : Type} (update : Updater σ) (e : CellEdit) :
    Gives (· = e.applied) (e.applyReported update) :=
  Gives.tryCatch (Gives.after fun _ => Gives.pure rfl) fun _ => Gives.throw _

/-- Edits that are all applied are reported in their order. -/
theorem CellEdit.gives_applyAll {σ : Type} (update : Updater σ) (edits : List CellEdit) :
    Gives (· = edits.map CellEdit.applied) (CellEdit.applyAll update edits) := by
  induction edits with
  | nil => exact Gives.pure rfl
  | cons e rest ih =>
    refine Gives.bind (e.gives_applyReported update) fun first hfirst => ?_
    refine Gives.bind ih fun others hothers => Gives.pure ?_
    rw [hfirst, hothers, List.map_cons]

/-! ## Engines -/

namespace Workspace

variable {α : Type} {q : α → Prop}

theorem gives_ofExcept {ε : Type} {wrap : ε → Error} {x : Except ε α}
    (h : ∀ a, x = .ok a → q a) : Gives q (ofExcept wrap x) := by
  cases x with
  | ok a => exact Gives.pure (h a rfl)
  | error e => exact Gives.throw _

theorem gives_andFinally {x : Action α} (cleanup : Action Unit) (hx : Gives q x) :
    Gives q (andFinally x cleanup) := by
  have hsettle : Gives (fun outcome => ∀ a, outcome = .ok a → q a) (settle x) := by
    refine Gives.tryCatch ?_ fun e => Gives.pure nofun
    intro w outcome w' houtcome a ha
    obtain ⟨b, hb, rfl⟩ := map_ok.mp houtcome
    cases ha
    exact hx w _ w' hb
  exact Gives.bind hsettle fun outcome houtcome => Gives.after fun _ => gives_ofExcept houtcome

/-- An engine gives nothing but what the body of updates gives. -/
theorem gives_edit {body : EditBody α}
    (hbody : ∀ {σ : Type} (update : Updater σ), Gives q (body update)) (engine : Engine)
    (autoFormula : Bool) (p : Path) (title : String) :
    Gives q (edit engine autoFormula p title body) := by
  cases engine with
  | file =>
    refine Gives.after fun book => Gives.after fun sheet => ?_
    refine Gives.bind (gives_ofExcept fun a ha => ?_) fun a (ha : q a) =>
      Gives.after fun _ => Gives.after fun _ => Gives.pure ha
    exact hbody (Sheet.updater autoFormula) sheet a _ (result_eq ha)
  | excel =>
    have hrun : Gives q (runInExcel autoFormula title body) := by
      intro w a w' ha
      rw [result_runInExcel] at ha
      exact hbody _ w.excel a _ (result_eq (Prod.mk.inj ha).1)
    have hsaved : ∀ logger message, Gives q (do
        let a ← runInExcel autoFormula title body
        withExcel Excel.saveBook
        inform logger message
        pure a) := fun _ _ =>
      Gives.bind hrun fun a ha => Gives.after fun _ => Gives.after fun _ => Gives.pure ha
    refine Gives.after fun _ => Gives.after fun _ => Gives.after fun _ => gives_andFinally _ ?_
    refine Gives.after fun _ => gives_andFinally _ (Gives.tryCatch ?_ fun _ => Gives.throw _)
    refine Gives.after fun names => ?_
    dsimp only
    split
    · exact hsaved _ _
    · exact Gives.after fun _ => hsaved _ _

/-! ## Batches -/

theorem setCells_answer {policy : Option PathPolicy} {r : SetCellsRequest} {w w' : Workspace}
    {answer : SetCellsResult} (h : result (setCells policy r) w = (.ok answer, w')) :
    ∃ excel, (result Excel.availability w.excel).1 = .ok excel ∧
      answer = answerOf r answer.path excel answer.engine
        ((Instruction.partition r.instructions).edits.map CellEdit.applied) := by
  rw [setCells_eq] at h
  obtain ⟨⟨p, excel, engine⟩, start, hbegin, h⟩ := bind_ok.mp h
  obtain ⟨-, -, hexcel, -, -⟩ := beginBatch_ok.mp hbegin
  obtain ⟨applied, last, hedit, h⟩ := bind_ok.mp h
  obtain ⟨_, informed, -, hend⟩ := bind_ok.mp h
  have happlied := gives_edit (fun update => CellEdit.gives_applyAll update _) engine
    r.autoFormula p r.sheet start applied last hedit
  cases hend
  exact ⟨excel, hexcel, by rw [happlied]; rfl⟩

/-- Each instruction of a batch comes out once, as an edit or as a rejection, and as what it is by
itself. When the batch succeeds, the edits have been applied in their order, each with its index and
the reference of its cell, the rejections are what was skipped, and their messages end the warnings,
after those about the size of the batch and about its engine. -/
theorem batch_accounts_for_instructions (instructions : List String) :
    (Instruction.partition instructions).Accounts instructions ∧
      ∀ (policy : Option PathPolicy) (r : SetCellsRequest) (w w' : Workspace)
        (answer : SetCellsResult), r.instructions = instructions →
        result (setCells policy r) w = (.ok answer, w') →
        let parts := Instruction.partition instructions
        (answer.applied.map fun a => (a.index, .ok (some a.cell))) =
            parts.edits.map (fun e => (e.index, encodeAddress e.address.row e.address.column)) ∧
          answer.skipped = parts.skipped ∧
          ∃ excel, (result Excel.availability w.excel).1 = .ok excel ∧
            answer.warnings = sizeWarning instructions.length ++
              engineWarnings r.engine answer.engine excel ++
                parts.skipped.map Rejection.message := by
  refine ⟨accounts_partition instructions, ?_⟩
  rintro policy r w w' answer rfl hrun parts
  obtain ⟨excel, hexcel, hanswer⟩ := setCells_answer hrun
  rw [hanswer]
  refine ⟨?_, rfl, excel, hexcel, rfl⟩
  show ((parts.edits.map CellEdit.applied).map _) = _
  rw [List.map_map]
  refine List.map_congr_left fun e _ => ?_
  rw [encodeAddress_cellAddress]
  rfl

/-- A batch for the workbook of `keptWorkspace` in which two instructions name no cell. -/
def mixedRequest : SetCellsRequest :=
  ⟨Path.ofText "/book.xlsx", "Sheet1", ["'a'@A1", "'lost'", "'b'@a1", "@?"], .only .file, false⟩

/-- Neither the two edits of one cell nor the two rejections are mixed up. -/
theorem mixed_batch_is_accounted_for :
    ∃ answer w', result (setCells none mixedRequest) keptWorkspace = (.ok answer, w') ∧
      (answer.applied.map fun a => (a.index, .ok (some a.cell))) =
        ([(0, .ok (some "A1")), (2, .ok (some "A1"))] :
          List (Nat × Except NumeralFault (Option String))) ∧
      answer.skipped =
        [⟨1, "'lost'", .missingAddress⟩, ⟨3, "@?", .invalidAddress "?"⟩] ∧
      answer.warnings = ["openpyxl editing may drop shapes/charts or unsupported elements.",
        "Instruction #1 has no '@' address marker: \"'lost'\"",
        "Instruction #3 has an invalid cell address '?': '@?'"] := by
  have hengine : (result (setCells none mixedRequest) keptWorkspace).1.map SetCellsResult.engine =
      .ok .file := by decide +kernel
  obtain ⟨answer, hrun, hfile⟩ := map_eq_ok.mp hengine
  obtain ⟨-, hbatch⟩ := batch_accounts_for_instructions mixedRequest.instructions
  obtain ⟨happlied, hskipped, excel, -, hwarnings⟩ :=
    hbatch none mixedRequest keptWorkspace _ answer rfl (result_eq hrun)
  rw [hfile] at hwarnings
  exact ⟨answer, _, result_eq hrun, happlied.trans (by decide +kernel),
    hskipped.trans (by decide +kernel), hwarnings.trans (by rfl)⟩

end Workspace

end WorkbookTools
