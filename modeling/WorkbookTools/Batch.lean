import WorkbookTools.Editing.Engine

/-!
# Batches of instructions

A batch of instructions edits one sheet. Instructions that name no cell are skipped and reported;
the others are applied in order, and the workbook is saved if none of them fails.
-/

namespace WorkbookTools

/-- The accepted edits and the rejected instructions of a batch, each in order. -/
structure Partition where
  edits : List CellEdit
  skipped : List Rejection
  deriving DecidableEq, Repr

namespace Instruction

def accepted (results : List (Except Rejection CellEdit)) : List CellEdit :=
  results.filterMap fun
    | .ok e => some e
    | .error _ => none

/-- The rejections of a row of results. -/
def rejected (results : List (Except Rejection CellEdit)) : List Rejection :=
  results.filterMap fun
    | .ok _ => none
    | .error r => some r

/-- Reads a batch and tells edits from rejections. -/
def partition (instructions : List String) : Partition :=
  let results := parseAll instructions
  ⟨accepted results, rejected results⟩

def batchLogger : String := "excelauto.mcp.cell_runner"

def records (index : Nat) (instruction : String) : List LogRecord :=
  ⟨.info, batchLogger, "Instruction #" ++ toString index ++ ": " ++ instruction⟩ ::
    match parse index instruction with
    | .ok _ => []
    | .error r => [⟨.warning, batchLogger, "Skipping instruction. " ++ r.message⟩]

/-- The records about a batch: first the warnings about colours, then those about instructions. -/
def partitionRecords (instructions : List String) : List LogRecord :=
  instructions.flatMap warnings ++ (instructions.mapIdx records).flatten

end Instruction

/-- A request to apply a batch. -/
structure SetCellsRequest where
  path : Path
  sheet : String
  instructions : List String
  engine : EngineChoice
  autoFormula : Bool
  deriving DecidableEq, Repr

/-- The answer to a request to apply a batch. -/
structure SetCellsResult where
  path : Path
  sheet : String
  applied : List AppliedEdit
  skipped : List Rejection
  warnings : List String
  engine : Engine
  deriving DecidableEq, Repr

/-- A batch with more instructions than this is called large. -/
def largeBatch : Nat := 500

def sizeWarning (count : Nat) : List String :=
  if largeBatch < count then
    ["Large batch: " ++ toString count ++ " instructions. Consider splitting the request."]
  else []

/-- The warnings about the choice of the file engine. -/
def engineWarnings (choice : EngineChoice) (engine : Engine) (excel : Availability) : List String :=
  match engine with
  | .excel => []
  | .file =>
    (match choice, excel.reason with
      | .auto, some reason => if reason = "" then [] else ["COM unavailable: " ++ reason]
      | _, _ => []) ++
    ["openpyxl editing may drop shapes/charts or unsupported elements."]

namespace Workspace

/-- Applies a batch of instructions and saves the workbook in place. -/
def setCells (policy : Option PathPolicy) (r : SetCellsRequest) : Action SetCellsResult := do
  let resolved ← existingWorkbook policy r.path
  ofExcept .format (checkExtension resolved)
  let excel ← withExcel Excel.availability
  let engine ← ofExcept .engine (r.engine.select resolved excel.available)
  let parts := Instruction.partition r.instructions
  report (Instruction.partitionRecords r.instructions)
  let warnings := sizeWarning r.instructions.length ++ engineWarnings r.engine engine excel ++
    parts.skipped.map Rejection.message
  let applied ← edit engine r.autoFormula resolved r.sheet fun update =>
    CellEdit.applyAll update parts.edits
  inform Instruction.batchLogger
    ("Applied " ++ toString applied.length ++ " cell instruction(s) to sheet '" ++ r.sheet ++
      "' (" ++ toString parts.skipped.length ++ " skipped).")
  pure ⟨resolved, r.sheet, applied, parts.skipped, warnings, engine⟩

end Workspace

end WorkbookTools
