import WorkbookTools.Server.Config
import WorkbookTools.Text.UpperCase
import WorkbookTools.Tool

/-!
# The server

The server is configured, then its log is set up, then it offers the tools until it ends. The log
shows the records from a threshold on. What goes wrong while the server runs is reported in the log
and gives the exit code one.
-/

namespace WorkbookTools.Server

/-! ## The log -/

/-- The thresholds of the log by their names. -/
def thresholds : List (String × Nat) :=
  [("CRITICAL", 50), ("FATAL", 50), ("ERROR", 40), ("WARN", 30), ("WARNING", 30), ("INFO", 20),
   ("DEBUG", 10), ("NOTSET", 0)]

/-- The name of a threshold; the first one counts where two names share it. -/
def thresholdName (threshold : Nat) : String :=
  match threshold with
  | 50 => "CRITICAL"
  | 40 => "ERROR"
  | 30 => "WARNING"
  | 20 => "INFO"
  | 10 => "DEBUG"
  | _ => "NOTSET"

/-- The threshold before the log is set up. -/
def initialThreshold : Nat := 30

/-- Opens the log file, which is created if it does not exist, and says where it is. -/
def openLogFile (p : Path) : Action Location := do
  let path := if p.isAbsolute then FileSystem.collapsed p else p
  let w ← get
  let place ← Workspace.ofExcept .file (w.files.writeTarget path)
  if (w.files.entryAt place).isNone then
    set { w with files := w.files.set place (.file (.text "")) }
  pure place

/-- Sets the log up and gives its threshold. The log file is opened before the level is looked at;
its records bear the time of the given written form. -/
def configureLog (time : String) (c : ServerConfig) : Action Nat := do
  let place ← match c.logFile with
    | some p => some <$> openLogFile p
    | none => pure none
  let name := Text.upper c.logLevel
  let some threshold := thresholds.lookup name | throw (.unknownLogLevel name)
  modify fun w => { w with logFile := place.map fun place => ⟨place, threshold, time⟩ }
  pure threshold

/-! ## Offering tools -/

def serverName : String := "ExcelAuto MCP"

/-- A tool as it is offered: its name, the arguments of its routine and the way they are read. -/
structure OfferedTool where
  name : String
  signature : Signature
  read : Datum → Except RequestError Tool.Call

/-- The routine behind a tool. -/
def routine (name : String) (required optional : List String) : Signature :=
  ⟨"_register_tools.<locals>." ++ name, required, optional⟩

def tools : List OfferedTool :=
  [⟨"open_excel_and_list_sheets", routine "_open_excel_tool" ["file_path"] [],
      fun d => .openWorkbook <$> Tool.OpenInput.ofDatum d⟩,
   ⟨"get_sheet_range_content",
      routine "_get_range_tool"
        ["sheet_name", "first_row", "first_column", "last_row", "last_column"] ["cell_with_coord"],
      fun d => .getRange <$> Tool.GetRangeInput.ofDatum d⟩,
   ⟨"set_sheet_range_content",
      routine "_set_range_tool" ["sheet_name", "first_row", "first_column", "values"] [],
      fun d => .setRange <$> Tool.SetRangeInput.ofDatum d⟩,
   ⟨"create_xlsx_file_by_absolute_path",
      routine "_create_xlsx_tool" ["file_path"] ["on_conflict"],
      fun d => .createWorkbook <$> Tool.CreateInput.ofDatum d⟩,
   ⟨"set_cells_by_array", routine "_set_cells_tool" ["sheet_name", "cells"] ["backend"],
      fun d => .setCells <$> Tool.SetCellsInput.ofDatum d⟩]

def findTool (name : String) : Except Error OfferedTool :=
  match tools.find? (·.name = name) with
  | some tool => .ok tool
  | none => .error (.unknownTool name)

/-- What the tools of a server do where a call says nothing. -/
def defaults (c : ServerConfig) : Tool.Defaults := .of c.onConflict c.engine c.autoFormula

def logger : String := "excelauto.mcp.server"

def announceRoot (c : ServerConfig) : Action Unit := do
  match ← Workspace.ofExcept .policy (c.policy.resolvedRoot (← get).files) with
  | none => Workspace.inform logger "MCP root: <none> (absolute paths required)"
  | some root => Workspace.inform logger ("MCP root: " ++ root.text)

/-- Prepares the tools and announces the start; without the server library nothing can be
offered. -/
def start (libraryInstalled : Bool) (c : ServerConfig) : Action Unit := do
  unless libraryInstalled do throw .serverLibraryMissing
  announceRoot c
  Workspace.inform logger
    ("Starting ExcelAuto MCP server (transport=" ++ c.transport.name ++ ", backend=" ++
      c.engine.name ++ ").")

/-- The record about the event loop that each call starts. -/
def loopRecord : LogRecord := ⟨.debug, "asyncio", "Using selector: EpollSelector"⟩

/-- Serves a call of a tool with the given arguments. -/
def serve (c : ServerConfig) (name : String) (arguments : Datum) : Action Tool.Answer := do
  Workspace.report [loopRecord]
  let tool ← Workspace.ofExcept id (findTool name)
  Workspace.ofExcept .arguments (tool.signature.check arguments.fieldNames)
  let call ← Workspace.ofExcept .request (tool.read arguments)
  Tool.run (some c.policy) (defaults c) call

/-- Runs the server and gives the exit code. A failure is reported in the log. -/
def run (body : Action Unit) : Action Nat := do
  match ← Workspace.settle body with
  | .ok () => pure 0
  | .error e =>
    Workspace.report [⟨.error, logger, "MCP server failed: " ++ e.message⟩]
    pure 1

end WorkbookTools.Server
