import WorkbookTools.Editing.Engine

/-!
# Opening workbooks

Opening a workbook lists its sheets. The sheets of old workbooks are listed through Excel.
-/

namespace WorkbookTools

/-- A workbook by its resolved path, and its sheets. -/
structure OpenedWorkbook where
  path : Path
  sheets : List String
  deriving DecidableEq, Repr

namespace Workspace

def oldSheetNames (p : Path) : Action (List String) := do
  let excel ← withExcel Excel.availability
  unless excel.available do
    throw (.format (.needsExcel p.suffix (excel.reason.getD "None")))
  listInExcel p

def openWorkbook (policy : Option PathPolicy) (p : Path) : Action OpenedWorkbook := do
  let resolved ← existingWorkbook policy p
  ofExcept .format (checkExtension resolved)
  let sheets ←
    if isFileWorkbook resolved then do pure (← openStored resolved).titles
    else oldSheetNames resolved
  inform "excelauto.mcp.sheet_ops"
    ("Opened workbook " ++ resolved.text ++ " with " ++ toString sheets.length ++ " sheet(s).")
  pure ⟨resolved, sheets⟩

end Workspace

end WorkbookTools
