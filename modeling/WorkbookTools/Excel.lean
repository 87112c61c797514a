import WorkbookTools.Fault
import WorkbookTools.Workbook.Cell

/-!
# Excel

Excel is driven from outside: an instance is started, opens a workbook, has properties of cells set,
saves, closes and quits. Every request to it is recorded as an event, also one that fails. A setup
says what the surroundings offer and which requests fail: all of a kind, or single ones by their
place in the row of requests.
-/

namespace WorkbookTools

/-- A property of a cell and the value that it is set to. -/
inductive CellProperty where
  | value (text : String)
  | numberFormat (text : String)
  | horizontalAlignment (code : Int)
  | verticalAlignment (code : Int)
  | bold (on : Bool)
  | italic (on : Bool)
  | underline (code : Int)
  | fontColor (number : Nat)
  | interiorColor (number : Nat)
  deriving DecidableEq, Repr

/-- An option of a running instance. -/
inductive ExcelOption where
  | displayAlerts
  | screenUpdating
  deriving DecidableEq, Repr

/-- A request to Excel. -/
inductive ExcelEvent where
  /-- A hidden instance without a workbook is started. -/
  | start
  | setOption (option : ExcelOption) (on : Bool)
  | openBook (path : String) (readOnly : Bool)
  | setCell (sheet : String) (row column : Int) (property : CellProperty)
  | saveBook
  | closeBook
  | quit
  | kill
  deriving DecidableEq, Repr

/-- What the surroundings offer, and the requests that fail. -/
structure ExcelSetup where
  platform : String
  /-- The value of the variable by which Excel is left out. -/
  skip : Option String
  /-- The names of the sheets of every workbook. -/
  sheets : List String
  libraryFault : Option Fault
  /-- The outcome of the first start, the second one, and so on. -/
  startFaults : List (Option Fault)
  openFault : Option Fault
  sheetsFault : Option Fault
  saveFault : Option Fault
  closeFault : Option Fault
  quitFault : Option Fault
  killFault : Option Fault
  /-- The attributes that cannot be set. -/
  attributeFaults : List (String × Fault)
  /-- The outcome of the first request, the second one, and so on, where it is not that of its
  kind. -/
  requestFaults : List (Option Fault) := []
  deriving DecidableEq, Repr

/-- A computer without Excel. -/
def ExcelSetup.absent : ExcelSetup :=
  ⟨"linux", none, ["Sheet1"], none, [], none, none, none, none, none, none, [], []⟩

/-- Excel as far as it has been used. -/
structure Excel where
  setup : ExcelSetup
  starts : Nat
  events : List ExcelEvent
  deriving DecidableEq, Repr

/-- A row of requests, each of which may fail. -/
abbrev ExcelAction := ExceptT Fault (StateM Excel)

/-- The name of the attribute that a property is set through. -/
def CellProperty.attribute : CellProperty → String
  | value _ => "value"
  | numberFormat _ => "number_format"
  | horizontalAlignment _ => "HorizontalAlignment"
  | verticalAlignment _ => "VerticalAlignment"
  | bold _ => "Bold"
  | italic _ => "Italic"
  | underline _ => "Underline"
  | fontColor _ | interiorColor _ => "Color"

/-- The name of the attribute that an option is set through. -/
def ExcelOption.attribute : ExcelOption → String
  | displayAlerts => "display_alerts"
  | screenUpdating => "screen_updating"

/-- The failure of all requests of a kind. Instances may fail to start one by one, so their number
counts there. -/
def ExcelSetup.kindFault? (setup : ExcelSetup) (starts : Nat) : ExcelEvent → Option Fault
  | .start => (setup.startFaults[starts]?).join
  | .setOption option _ => setup.attributeFaults.lookup option.attribute
  | .openBook .. => setup.openFault
  | .setCell _ _ _ property => setup.attributeFaults.lookup property.attribute
  | .saveBook => setup.saveFault
  | .closeBook => setup.closeFault
  | .quit => setup.quitFault
  | .kill => setup.killFault

/-! ## Cell updates as properties -/

def HorizontalAlignment.code : HorizontalAlignment → Int
  | .left => -4131
  | .center => -4108
  | .right => -4152

def VerticalAlignment.code : VerticalAlignment → Int
  | .top => -4160
  | .center => -4108
  | .bottom => -4107

/-- The number of a single underline or of none. -/
def underlineCode (on : Bool) : Int := if on then 2 else -4142

/-- The properties that an update sets, in order. Unless formulas are wanted, a text that begins
with the equals sign is preceded by the format of literal text. -/
def CellUpdate.properties (autoFormula : Bool) : CellUpdate → List CellProperty
  | .text s =>
    (if Cell.looksLikeFormula s ∧ ¬ autoFormula then [.numberFormat "@"] else []) ++ [.value s]
  | .alignment horizontal vertical =>
    (horizontal.map fun h => CellProperty.horizontalAlignment h.code).toList ++
      (vertical.map fun v => CellProperty.verticalAlignment v.code).toList
  | .bold on => [.bold on]
  | .italic on => [.italic on]
  | .underline on => [.underline (underlineCode on)]
  | .fontColor c => [.fontColor c.number]
  | .backgroundColor c => [.interiorColor c.number]

namespace Excel

/-- Excel before its first use. -/
def ofSetup (setup : ExcelSetup) : Excel := ⟨setup, 0, []⟩

/-- The failure of the next request, if it is this one and fails. -/
def fault? (x : Excel) (e : ExcelEvent) : Option Fault :=
  (x.setup.requestFaults[x.events.length]?).join <|> x.setup.kindFault? x.starts e

/-- Excel after a request, whether it has failed or not. -/
def after (x : Excel) (e : ExcelEvent) : Excel :=
  { x with
    starts := if e = .start then x.starts + 1 else x.starts
    events := x.events ++ [e] }

/-- Makes a request; it is recorded whether it fails or not. -/
def request (e : ExcelEvent) : ExcelAction Unit := do
  let x ← get
  set (x.after e)
  match x.fault? e with
  | some f => throw f
  | none => pure ()

def start : ExcelAction Unit := request .start

def setOption (option : ExcelOption) (on : Bool) : ExcelAction Unit :=
  request (.setOption option on)

/-- Opens a workbook. -/
def openBook (path : String) (readOnly : Bool) : ExcelAction Unit :=
  request (.openBook path readOnly)

def setCell (sheet : String) (row column : Int) (property : CellProperty) : ExcelAction Unit :=
  request (.setCell sheet row column property)

/-- Sets the properties of an update one after the other. -/
def update (autoFormula : Bool) (sheet : String) (row column : Int) (u : CellUpdate) :
    ExcelAction Unit :=
  (u.properties autoFormula).forM (setCell sheet row column)

def sheetNames : ExcelAction (List String) := do
  let x ← get
  match x.setup.sheetsFault with
  | some f => throw f
  | none => pure x.setup.sheets

/-- Saves the workbook. -/
def saveBook : ExcelAction Unit := request .saveBook

/-- Closes the workbook; a failure does not matter. -/
def closeBook : ExcelAction Unit := do
  try request .closeBook catch _ => pure ()

/-- Quits the instance, or kills it if that fails; a further failure does not matter. -/
def quit : ExcelAction Unit := do
  try request .quit
  catch _ => try request .kill catch _ => pure ()

end Excel

end WorkbookTools
