import WorkbookTools.Editing.Apply
import WorkbookTools.Workspace

/-!
# Engines for editing cells

One engine edits the file itself, the other drives Excel. Both open a sheet of a workbook, run a
body of updates on it and save the workbook if the body succeeds. The file engine cannot edit old
workbooks; without a choice Excel is used where it is available.

While a workbook is open in Excel, refused values keep their error and every other failure becomes
an error of the edit. The workbook is closed and the instance quits whether the body fails or not.
-/

namespace WorkbookTools

/-- An engine. -/
inductive Engine where
  | excel
  | file
  deriving DecidableEq, Repr

def Engine.name : Engine → String
  | excel => "com"
  | file => "openpyxl"

/-- The engine that a request asks for. -/
inductive EngineChoice where
  | auto
  | only (engine : Engine)
  deriving DecidableEq, Repr

def EngineChoice.name : EngineChoice → String
  | auto => "auto"
  | only engine => engine.name

def EngineChoice.select (choice : EngineChoice) (p : Path) (excelAvailable : Bool) :
    Except EngineError Engine :=
  let old := p.extension = Workspace.oldExtension
  match choice with
  | .only .file => if old then .error .fileEngineOnOldWorkbook else .ok .file
  | .only .excel => if excelAvailable then .ok .excel else .error .excelUnavailable
  | .auto =>
    if excelAvailable then .ok .excel
    else if old then .error .oldWorkbookNeedsExcel
    else .ok .file

/-- The file engine carries out an update on the sheet in memory. -/
def Sheet.updater (autoFormula : Bool) : Updater Sheet := fun row column u => do
  let (outcome, s) := Sheet.update autoFormula (← get) row column u
  set s
  match outcome with
  | .ok () => pure ()
  | .error e => throw (.sheet e)

/-- Excel carries out an update by setting properties. -/
def Excel.updater (autoFormula : Bool) (sheet : String) : Updater Excel := fun row column u =>
  ExceptT.mk do
    match ← (Excel.update autoFormula sheet row column u).run with
    | .ok () => pure (.ok ())
    | .error f => pure (.error (.fault f))

abbrev EditBody (α : Type) := {σ : Type} → Updater σ → EditAction σ α

namespace Workspace

variable {α : Type}

/-- The outcome of an action as a value. -/
def settle (x : Action α) : Action (Except Error α) :=
  tryCatch (Except.ok <$> x) fun e => pure (.error e)

def resume (outcome : Except Error α) : Action α := ofExcept id outcome

/-- Runs an action and then, whether it has failed or not, another one. -/
def andFinally (x : Action α) (cleanup : Action Unit) : Action α := do
  let outcome ← settle x
  cleanup
  resume outcome

/-- Edits a sheet in memory and saves the workbook in place. -/
def editFile (autoFormula : Bool) (p : Path) (title : String) (body : EditBody α) : Action α := do
  let book ← load p
  let sheet ← ofExcept .title (book.sheet title)
  let (outcome, edited) := ((body (Sheet.updater autoFormula)).run.run sheet)
  let result ← resume outcome
  save p (book.setSheet title edited)
  inform "excelauto.mcp.backend.openpyxl_backend" ("Saved workbook via openpyxl: " ++ p.text)
  pure result

/-- Runs a body of updates on a sheet that is open in Excel. -/
def runInExcel (autoFormula : Bool) (sheet : String) (body : EditBody α) : Action α := do
  let w ← get
  let (outcome, excel) := ((body (Excel.updater autoFormula sheet)).run.run w.excel)
  set { w with excel }
  resume outcome

/-- The error that a failure turns into while a workbook is open for editing. -/
def excelEditFailure (e : Error) : Error :=
  if e.category.isValue then e else .excelEdit e.message

/-- The part of an edit during which the workbook is open in Excel. -/
def editOpenBook (autoFormula : Bool) (p : Path) (title : String) (body : EditBody α) :
    Action α := do
  let names ← withExcel Excel.sheetNames
  unless title ∈ names do throw (.title (.unknown title names.eraseDups))
  let result ← runInExcel autoFormula title body
  withExcel Excel.saveBook
  inform "excelauto.mcp.backend.xlwings_backend" ("Saved workbook via Excel COM: " ++ p.text)
  pure result

/-- Edits a sheet in an Excel instance of its own and saves the workbook in place. -/
def editInExcel (autoFormula : Bool) (p : Path) (title : String) (body : EditBody α) :
    Action α := do
  withExcel Excel.start
  withExcel (Excel.setOption .displayAlerts false)
  withExcel (Excel.setOption .screenUpdating false)
  andFinally (do
      withExcel (Excel.openBook p.text false)
      andFinally
        (tryCatch (editOpenBook autoFormula p title body) fun e => throw (excelEditFailure e))
        (withExcel Excel.closeBook))
    (withExcel Excel.quit)

def edit (engine : Engine) (autoFormula : Bool) (p : Path) (title : String) (body : EditBody α) :
    Action α :=
  match engine with
  | .excel => editInExcel autoFormula p title body
  | .file => editFile autoFormula p title body

/-- Lists the sheets of a workbook through an Excel instance of its own. -/
def listInExcel (p : Path) : Action (List String) := do
  withExcel Excel.start
  withExcel (Excel.setOption .displayAlerts false)
  andFinally (do
      withExcel (Excel.openBook p.text true)
      andFinally
        (tryCatch (withExcel Excel.sheetNames) fun e => throw (.excelListing e.message))
        (withExcel Excel.closeBook))
    (withExcel Excel.quit)

end Workspace

end WorkbookTools
