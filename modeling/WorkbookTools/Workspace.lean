import WorkbookTools.Archive.Contents
import WorkbookTools.Error
import WorkbookTools.Excel.Availability
import WorkbookTools.FileSystem
import WorkbookTools.Log
import WorkbookTools.Workbook.Stored

/-!
# The workspace

All operations work on one state: the files, Excel, the current workbook of the session and the log.
An action may fail; the state that it has reached by then remains.

A file that holds a workbook holds what is read back from it. A workbook is opened to look at its
titles or at some rows, and loaded to be edited as a whole. Saving empties the target first, so a
workbook that cannot be written leaves an unfinished archive behind.
-/

namespace WorkbookTools

/-- What a file holds. -/
inductive Content where
  | text (s : String)
  /-- An archive with a text after it. Without a workbook its writing was broken off. -/
  | archive (book : Option StoredWorkbook) (added : String)
  deriving DecidableEq, Repr

namespace Content

/-- A workbook that has just been written. -/
def workbook (w : StoredWorkbook) : Content := archive (some w) ""

/-- An archive whose writing was broken off. -/
def unfinished : Content := archive none ""

/-- The content with a text added at the end of the file. -/
def extended (c : Content) (more : String) : Content :=
  match c with
  | text s => .text (s ++ more)
  | archive book added => .archive book (added ++ more)

def openBook : Content → Except ArchiveError StoredWorkbook
  | text s => .error (Archive.failure (Archive.bytesOf s))
  | archive book added =>
    match Archive.extendedFailure? added, book with
    | some e, _ => .error e
    | none, none => .error (.noPart Archive.contentsName)
    | none, some w => .ok w

end Content

/-- A file that records of the log are added to: where it stands, the rank that a record must have,
and the written form of the time. -/
structure LogFile where
  place : Location
  threshold : Nat
  time : String
  deriving DecidableEq, Repr

/-- The state that operations work on. -/
structure Workspace where
  files : FileSystem Content
  excel : Excel
  current : Option Path
  log : List LogRecord
  logFile : Option LogFile
  deriving DecidableEq, Repr

/-- A computation on the workspace that may fail. -/
abbrev Action := ExceptT Error (StateM Workspace)

namespace Workspace

def ofFiles (files : FileSystem Content) (setup : ExcelSetup) : Workspace :=
  ⟨files, Excel.ofSetup setup, none, [], none⟩

/-- The files after records have been added to a file. -/
def writeRecords (f : LogFile) (records : List LogRecord) (files : FileSystem Content) :
    FileSystem Content :=
  let lines := (LogRecord.shown f.threshold records).map fun r => f.time ++ " " ++ r.line ++ "\n"
  match files.entryAt f.place with
  | some (.file content) => files.set f.place (.file (content.extended (String.join lines)))
  | _ => files

/-- Writes records to the log, and at once to its file if there is one. -/
def report (records : List LogRecord) : Action Unit :=
  modify fun w => { w with
    log := w.log ++ records
    files := match w.logFile with
      | some f => writeRecords f records w.files
      | none => w.files }

/-- Writes an informative record to the log. -/
def inform (logger message : String) : Action Unit := report [⟨.info, logger, message⟩]

/-- Makes requests to Excel. -/
def withExcel {α : Type} (action : ExcelAction α) : Action α := do
  let w ← get
  let (outcome, excel) := action.run.run w.excel
  set { w with excel }
  match outcome with
  | .ok a => pure a
  | .error f => throw (.fault f)

/-- A result of a pure computation. -/
def ofExcept {ε α : Type} (wrap : ε → Error) (x : Except ε α) : Action α :=
  match x with
  | .ok a => pure a
  | .error e => throw (wrap e)

/-! ## Paths -/

def resolvePath (policy : Option PathPolicy) (p : Path) : Action Path := do
  ofExcept .policy (PathPolicy.resolvePath policy (← get).files p)

def existingWorkbook (policy : Option PathPolicy) (p : Path) : Action Path := do
  let resolved ← resolvePath policy p
  let files := (← get).files
  unless ← ofExcept .file (files.pathExists resolved) do throw (.workbookMissing resolved)
  unless ← ofExcept .file (files.isFile resolved) do throw (.workbookNotFile resolved)
  pure resolved

/-- Creates the missing directories above a path. -/
def ensureDirectory (p : Path) : Action Unit := do
  let w ← get
  let directory := p.parent
  let (outcome, files) := w.files.makeDirectories directory.anchor directory.parts.reverse
  set { w with files }
  ofExcept .file outcome

/-! ## Workbook files -/

/-- The suffixes of workbooks that the file engine reads and writes. -/
def fileExtensions : List String := [".xlsx", ".xlsm"]

/-- The suffix of old workbooks, which only Excel opens. -/
def oldExtension : String := ".xls"

def isFileWorkbook (p : Path) : Bool := p.extension ∈ fileExtensions

/-- Refuses a path without the suffix of a workbook. -/
def checkExtension (p : Path) : Except FormatError Unit :=
  if p.extension ∈ fileExtensions ∨ p.extension = oldExtension then .ok ()
  else .error (.unsupported p.suffix)

/-- Opens the workbook in a file, whose titles must be readable. -/
def openStored (p : Path) : Action StoredWorkbook := do
  unless isFileWorkbook p do throw (.format (.notOpenable p.suffix p))
  if (p.name.toList.dropWhile (· = '.')).all (· ≠ '.') then throw (.format .noReaderSuffix)
  let content ← ofExcept .file ((← get).files.read p)
  let book ← ofExcept (fun e => .format (.ofArchive p e)) content.openBook
  match book.fault with
  | some place => throw (.format (.unreadable (.malformed place)))
  | none => pure book

/-- The error of a workbook that cannot be loaded. A value that is no number is not named. -/
def loadFailure (p : Path) : ReadFault → Error
  | .malformed place => .format (.unreadable (.malformed place))
  | .number _ => .format (.unreadablePart "worksheets" p)

/-- Reads the whole workbook in a file. -/
def load (p : Path) : Action Workbook := do
  ofExcept (loadFailure p) (← openStored p).read

/-- Writes a workbook to a file. -/
def save (p : Path) (book : Workbook) : Action Unit := do
  let w ← get
  let place ← ofExcept .file (w.files.writeTarget p)
  match book.stored with
  | .ok kept => set { w with files := w.files.set place (.file (.workbook kept)) }
  | .error e =>
    set { w with files := w.files.set place (.file .unfinished) }
    throw (.sheet e)

end Workspace

end WorkbookTools
