import WorkbookTools.Opening
import WorkbookTools.Tool.Input

/-!
# Tools

Five tools are offered. Opening and creating select the current workbook; the other three work on it
and fail while there is none. What a call leaves open is decided by the defaults, which may come as
options of the call and are checked together with the request.
-/

namespace WorkbookTools.Tool

/-- What applies where a call says nothing. -/
structure Defaults where
  onConflict : Checked ConflictPolicy
  engine : Checked EngineChoice
  autoFormula : Checked Bool

/-- Defaults that are known to be right. -/
def Defaults.of (onConflict : ConflictPolicy) (engine : EngineChoice) (autoFormula : Bool) :
    Defaults :=
  ⟨.valid onConflict, .valid engine, .valid autoFormula⟩

/-- The defaults of a server that is started without options. -/
def Defaults.standard : Defaults := .of .overwrite .auto false

/-- The defaults that options set. A conflict policy that says nothing is no option. -/
def Defaults.ofOptions (options : Datum) : Defaults where
  onConflict :=
    match options.field? "on_conflict" with
    | some d => if d.saysNothing then .valid .overwrite else d.toChoice ConflictPolicy.choices
    | none => standard.onConflict
  engine := ((options.field? "backend").map (Datum.toChoice EngineChoice.choices)).getD
    standard.engine
  autoFormula := ((options.field? "auto_formula").map Datum.toBoolean).getD standard.autoFormula

/-- A call of a tool. -/
inductive Call where
  | openWorkbook (input : OpenInput)
  | createWorkbook (input : CreateInput)
  | getRange (input : GetRangeInput)
  | setRange (input : SetRangeInput)
  | setCells (input : SetCellsInput)
  deriving DecidableEq, Repr

/-- The answer of a tool. -/
inductive Answer where
  | opened (result : OpenedWorkbook)
  | created (result : CreatedWorkbook)
  | range (result : ReadRangeResult)
  | written (result : WriteRangeResult)
  | edited (result : SetCellsResult)
  deriving DecidableEq, Repr

/-! ## The session -/

/-- Makes a workbook the current one. -/
def select (p : Path) : Action Unit := do
  modify fun w => { w with current := some p }
  Workspace.inform "excelauto.mcp.session" ("Current workbook: " ++ p.text)

def requireCurrent : Action Path := do
  match (← get).current with
  | some p => pure p
  | none => throw .noCurrentWorkbook

/-! ## Running a call -/

def runOpen (policy : Option PathPolicy) (input : OpenInput) : Action OpenedWorkbook := do
  let result ← Workspace.openWorkbook policy (Path.ofText input.path)
  select result.path
  pure result

/-- Creates a workbook and selects it. -/
def runCreate (policy : Option PathPolicy) (defaults : Defaults) (input : CreateInput) :
    Action CreatedWorkbook := do
  let request ← Workspace.ofExcept .request (input.request defaults.onConflict)
  let result ← Workspace.createWorkbook policy request
  select result.path
  pure result

/-- Reads a range of the current workbook. -/
def runGetRange (policy : Option PathPolicy) (input : GetRangeInput) : Action ReadRangeResult := do
  let request ← Workspace.ofExcept .request (input.request (← requireCurrent))
  Workspace.readRange policy request

/-- Writes a block of values to the current workbook. -/
def runSetRange (policy : Option PathPolicy) (defaults : Defaults) (input : SetRangeInput) :
    Action WriteRangeResult := do
  let request ← Workspace.ofExcept .request
    (input.request (← requireCurrent) defaults.autoFormula)
  Workspace.writeRange policy request

/-- Applies a batch to the current workbook. -/
def runSetCells (policy : Option PathPolicy) (defaults : Defaults) (input : SetCellsInput) :
    Action SetCellsResult := do
  let request ← Workspace.ofExcept .request
    (input.request (← requireCurrent) defaults.engine defaults.autoFormula)
  Workspace.setCells policy request

def run (policy : Option PathPolicy) (defaults : Defaults) : Call → Action Answer
  | .openWorkbook input => .opened <$> runOpen policy input
  | .createWorkbook input => .created <$> runCreate policy defaults input
  | .getRange input => .range <$> runGetRange policy input
  | .setRange input => .written <$> runSetRange policy defaults input
  | .setCells input => .edited <$> runSetCells policy defaults input

/-- The routine behind a call, with the options that it takes. -/
def Call.signature : Call → Signature
  | openWorkbook _ => ⟨"run_open_excel_tool", [], []⟩
  | createWorkbook _ => ⟨"run_create_xlsx_tool", [], ["on_conflict"]⟩
  | getRange _ => ⟨"run_get_range_tool", [], []⟩
  | setRange _ => ⟨"run_set_range_tool", [], ["auto_formula"]⟩
  | setCells _ => ⟨"run_set_cells_tool", [], ["backend", "auto_formula"]⟩

def runWithOptions (policy : Option PathPolicy) (options : Datum) (call : Call) :
    Action Answer := do
  Workspace.ofExcept .arguments (call.signature.check options.fieldNames)
  run policy (.ofOptions options) call

end WorkbookTools.Tool
