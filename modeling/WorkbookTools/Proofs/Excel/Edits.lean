import WorkbookTools.Proofs.Excel.Requests

/-!
# Edits as rows of requests

Excel applies an edit by setting properties of its cell, update by update. A batch is one row of
such requests, which its first failure ends.

* `result_apply`: how a single edit succeeds or fails.
* `result_applyAll`: what a batch gives, and the requests that it makes.
-/

namespace WorkbookTools

open WorkbookTools.Action

/-- The requests of an update. -/
def CellUpdate.requests (autoFormula : Bool) (sheet : String) (row column : Int)
    (u : CellUpdate) : List ExcelEvent :=
  (u.properties autoFormula).map (.setCell sheet row column)

namespace CellEdit

/-- The requests of an edit, in the order in which its updates are applied. -/
def requests (autoFormula : Bool) (sheet : String) (e : CellEdit) : List ExcelEvent :=
  e.updates.flatMap fun (_, u) => u.requests autoFormula sheet e.address.row e.address.column

/-- The requests of a batch, edit by edit. -/
def allRequests (autoFormula : Bool) (sheet : String) (edits : List CellEdit) : List ExcelEvent :=
  edits.flatMap (requests autoFormula sheet)

end CellEdit

namespace Excel

variable (autoFormula : Bool) (sheet : String)

theorem result_update (row column : Int) (u : CellUpdate) (x : Excel) :
    result (updater autoFormula sheet row column u) x =
      (match x.firstFault? (u.requests autoFormula sheet row column) with
        | some f => .error (.fault f)
        | none => .ok (),
        x.afterAll (x.attempted (u.requests autoFormula sheet row column))) := by
  have hforM : ∀ properties : List CellProperty,
      properties.forM (setCell sheet row column) =
        (properties.map (ExcelEvent.setCell sheet row column)).forM request := by
    intro properties
    induction properties with
    | nil => rfl
    | cons property rest ih =>
      unfold List.forM List.map
      rw [ih]
      rfl
  rw [result_updater, update, hforM, result_forM_request, ← CellUpdate.requests]
  cases x.firstFault? (u.requests autoFormula sheet row column) <;> rfl

/-- The updates of an edit, as one row of requests. -/
theorem result_forM_updater (row column : Int) (updates : List (EditField × CellUpdate))
    (x : Excel) :
    let row' := updates.flatMap fun (_, u) => u.requests autoFormula sheet row column
    result (updates.forM fun (_, u) => updater autoFormula sheet row column u) x =
      (match x.firstFault? row' with
        | some f => .error (.fault f)
        | none => .ok (),
        x.afterAll (x.attempted row')) := by
  induction updates generalizing x with
  | nil => rfl
  | cons first rest ih =>
    unfold List.forM
    simp only [List.flatMap_cons, result_bind, result_update, firstFault?_append, attempted_append]
    cases hfault : x.firstFault? (first.2.requests autoFormula sheet row column) with
    | some f => rfl
    | none =>
      simp only [attempted_of_firstFault?_none hfault, Option.none_or, afterAll_append]
      exact ih _

theorem result_apply (e : CellEdit) (x : Excel) :
    result (e.apply (updater autoFormula sheet)) x =
      (match x.firstFault? (e.requests autoFormula sheet) with
        | some f => .error (.fault f)
        | none => .ok e.applied,
        x.afterAll (x.attempted (e.requests autoFormula sheet))) := by
  have hupdates := result_forM_updater autoFormula sheet e.address.row e.address.column e.updates x
  unfold CellEdit.apply
  rw [result_bind, hupdates, ← CellEdit.requests]
  cases x.firstFault? (e.requests autoFormula sheet) <;> rfl

theorem result_applyReported (e : CellEdit) (x : Excel) :
    result (e.applyReported (updater autoFormula sheet)) x =
      (match x.firstFault? (e.requests autoFormula sheet) with
        | some f => .error (e.failure (.fault f))
        | none => .ok e.applied,
        x.afterAll (x.attempted (e.requests autoFormula sheet))) := by
  unfold CellEdit.applyReported
  rw [result_tryCatch, result_apply]
  cases x.firstFault? (e.requests autoFormula sheet) <;> rfl

/-- The first edit of a row that fails, with its failure. -/
def firstFailure? (x : Excel) : List CellEdit → Option (CellEdit × Fault)
  | [] => none
  | e :: rest =>
    match x.firstFault? (e.requests autoFormula sheet) with
    | some f => some (e, f)
    | none => firstFailure? (x.afterAll (e.requests autoFormula sheet)) rest

/-- An edit fails if and only if one of the requests does. -/
theorem firstFailure?_eq_none {autoFormula : Bool} {sheet : String} {x : Excel}
    {edits : List CellEdit} :
    x.firstFailure? autoFormula sheet edits = none ↔
      x.firstFault? (CellEdit.allRequests autoFormula sheet edits) = none := by
  induction edits generalizing x with
  | nil => exact ⟨fun _ => rfl, fun _ => rfl⟩
  | cons e rest ih =>
    unfold firstFailure? CellEdit.allRequests
    rw [List.flatMap_cons, firstFault?_append]
    cases x.firstFault? (e.requests autoFormula sheet) with
    | some f => exact ⟨nofun, nofun⟩
    | none => exact ih

/-- A batch makes its requests edit by edit, up to the first failure. -/
theorem result_applyAll (edits : List CellEdit) (x : Excel) :
    result (CellEdit.applyAll (updater autoFormula sheet) edits) x =
      (match x.firstFailure? autoFormula sheet edits with
        | some (e, f) => .error (e.failure (.fault f))
        | none => .ok (edits.map CellEdit.applied),
        x.afterAll (x.attempted (CellEdit.allRequests autoFormula sheet edits))) := by
  induction edits generalizing x with
  | nil => rfl
  | cons e rest ih =>
    unfold CellEdit.applyAll CellEdit.allRequests firstFailure?
    rw [List.flatMap_cons, result_bind, result_applyReported, attempted_append]
    cases hfault : x.firstFault? (e.requests autoFormula sheet) with
    | some f => rfl
    | none =>
      simp only [attempted_of_firstFault?_none hfault, afterAll_append, result_bind, ih]
      cases (x.afterAll (e.requests autoFormula sheet)).firstFailure? autoFormula sheet rest <;> rfl

end Excel

end WorkbookTools
