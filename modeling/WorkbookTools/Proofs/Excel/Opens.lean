import WorkbookTools.Proofs.Excel.Requests

/-!
# Workbooks that Excel is asked to open

`OpensOnly` says which workbooks are opened by an action on Excel; only the request to open a
workbook needs a condition.
-/

namespace WorkbookTools

open WorkbookTools.Action

variable {α ε : Type} {Q : String → Prop}

/-- The request opens a workbook that has the property, if it opens one. -/
def ExcelEvent.OpensIn (Q : String → Prop) (e : ExcelEvent) : Prop :=
  ∀ path readOnly, e = .openBook path readOnly → Q path

/-- The action on Excel opens only workbooks that have the property. -/
def OpensOnly (Q : String → Prop) (x : ExceptT ε (StateM Excel) α) : Prop :=
  RequestsOnly id (ExcelEvent.OpensIn Q) x

theorem OpensOnly.exists_events {x : ExceptT ε (StateM Excel) α} (h : OpensOnly Q x) (s : Excel) :
    ∃ events, (result x s).2.events = s.events ++ events ∧
      ∀ path readOnly, .openBook path readOnly ∈ events → Q path := by
  obtain ⟨events, hnext, hopens⟩ := h s
  have hevents : (result x s).2.events = s.events ++ events :=
    (congrArg Excel.events hnext).trans (s.events_afterAll events)
  exact ⟨events, hevents, fun path readOnly hmem => hopens _ hmem path readOnly rfl⟩

namespace Excel

theorem opensOnly_openBook {path : String} (hpath : Q path) (readOnly : Bool) :
    OpensOnly Q (openBook path readOnly) := by
  apply requestsOnly_request
  intro other _ h
  cases h
  exact hpath

theorem opensOnly_start : OpensOnly Q start := requestsOnly_request nofun

theorem opensOnly_setOption (option : ExcelOption) (on : Bool) :
    OpensOnly Q (setOption option on) :=
  requestsOnly_request nofun

theorem opensOnly_sheetNames : OpensOnly Q sheetNames := requestsOnly_sheetNames

theorem opensOnly_saveBook : OpensOnly Q saveBook := requestsOnly_request nofun

theorem opensOnly_closeBook : OpensOnly Q closeBook := requestsOnly_closeBook nofun

theorem opensOnly_quit : OpensOnly Q quit := requestsOnly_quit nofun nofun

/-- Finding out whether Excel is available opens no workbook. -/
theorem opensOnly_availability : OpensOnly Q availability :=
  requestsOnly_availability nofun nofun nofun

theorem opensOnly_applyAll (autoFormula : Bool) (sheet : String) (edits : List CellEdit) :
    OpensOnly Q (CellEdit.applyAll (updater autoFormula sheet) edits) :=
  requestsOnly_applyAll autoFormula sheet (fun _ _ _ => nofun) edits

end Excel

end WorkbookTools
