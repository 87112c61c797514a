import WorkbookTools.Workspace

/-!
# Creating workbooks

A new workbook has one empty sheet. The target is chosen by the conflict policy; if an existing file
is kept, its sheets are reported instead.
-/

namespace WorkbookTools

/-- A request to create a workbook. -/
structure CreateRequest where
  path : Path
  onConflict : ConflictPolicy
  title : String
  deriving DecidableEq, Repr

/-- The answer to a request to create a workbook. -/
structure CreatedWorkbook where
  path : Path
  created : Bool
  sheets : List String
  warnings : List String
  deriving DecidableEq, Repr

namespace Workspace

/-- Refuses a path under which no workbook can be created. -/
def checkCreatable (p : Path) : Except FormatError Unit :=
  if isFileWorkbook p then .ok () else .error (.notCreatable p.name)

/-- Writes a workbook with one empty sheet. -/
def writeNewWorkbook (p : Path) (title : String) : Action Unit := do
  ofExcept .format (checkCreatable p)
  save p (← ofExcept .title (Workbook.create title))

/-- The path leads to something. -/
def pathPresent (files : FileSystem Content) (p : Path) : Except Error Bool :=
  (files.pathExists p).mapError .file

/-- Where a new workbook goes. -/
def chooseDestination (onConflict : ConflictPolicy) (p : Path) : Action Destination := do
  ofExcept id (destination (pathPresent (← get).files) .naming onConflict p)

def createWorkbook (policy : Option PathPolicy) (r : CreateRequest) : Action CreatedWorkbook := do
  let resolved ← resolvePath policy r.path
  ofExcept .format (checkCreatable resolved)
  let target ← chooseDestination r.onConflict resolved
  let warnings := target.warning.toList
  if target.skipped then
    let book ← openStored target.path
    pure ⟨target.path, false, book.titles, warnings⟩
  else
    ensureDirectory target.path
    writeNewWorkbook target.path r.title
    inform "excelauto.mcp.sheet_ops" ("Created workbook: " ++ target.path.text)
    pure ⟨target.path, true, [r.title], warnings⟩

end Workspace

end WorkbookTools
