import WorkbookTools.Batch
import WorkbookTools.Color
import WorkbookTools.Creation
import WorkbookTools.Policy
import WorkbookTools.Range.Write
import WorkbookTools.Request.Check

/-!
# Requests as data

Each request is read from a record, whose unknown fields are ignored. The fields are checked in the
order in which they are listed here, and conditions that join several fields come last.
-/

namespace WorkbookTools

namespace Scalar

/-- A scalar keeps its type; any other value is wrong for each of the four types in turn. -/
def ofDatum : Datum → Checked Scalar
  | .null => .valid .null
  | .boolean b => .valid (.boolean b)
  | .integer n => .valid (.integer n)
  | .number x => .valid (.number x)
  | .text s => .valid (.text s)
  | _ => .invalid
    [⟨["str"], .notText⟩, ⟨["int"], .notInteger⟩, ⟨["float"], .notNumber⟩, ⟨["bool"], .notBoolean⟩]

end Scalar

namespace ConflictPolicy

/-- The conflict policies by their names. -/
def choices : List (String × ConflictPolicy) :=
  [overwrite, skip, rename].map fun p => (p.name, p)

end ConflictPolicy

namespace EngineChoice

def choices : List (String × EngineChoice) :=
  [auto, only .excel, only .file].map fun c => (c.name, c)

end EngineChoice

namespace CellAddress

def ofDatum (d : Datum) : Except RequestError CellAddress :=
  d.request "CellAddress" fun d =>
    (fun row column =>
      ⟨row.val, column.val, row.property.1, row.property.2, column.property.1,
        column.property.2⟩) <$>
      d.required "row" (Datum.toBetween 1 maxIndex) <*>
      d.required "column" (Datum.toBetween 1 maxIndex)

end CellAddress

namespace Color

/-- Reads one channel of a colour; a missing one is zero. -/
def channelOfDatum (d : Datum) (name : String) : Checked UInt8 :=
  d.withDefault name 0 fun value => (fun n => UInt8.ofNat n.val) <$> value.toBetween 0 255

/-- Reads a colour. -/
def ofDatum (d : Datum) : Except RequestError Color :=
  d.request "RGBColor" fun d =>
    Color.mk <$> channelOfDatum d "r" <*> channelOfDatum d "g" <*> channelOfDatum d "b"

end Color

namespace Instruction

/-- Reads the instruction at a position that may be negative, which is refused once the instruction
has been read. -/
def parseAt (index : Int) (instruction : String) :
    Except RequestError (Except Rejection CellEdit) :=
  if index < 0 then
    .error ⟨match parse 0 instruction with
      | .ok _ => "CellEdit"
      | .error _ => "InstructionRejected", [⟨["index"], .below 0⟩]⟩
  else .ok (parse index.toNat instruction)

end Instruction

namespace PathPolicy

def ofDatum (d : Datum) : Except RequestError PathPolicy :=
  d.request "PathPolicy" fun d =>
    PathPolicy.mk <$> d.withDefault "root" none (Datum.toOptional Datum.toPath) <*>
      d.withDefault "deny_globs" [] (Datum.toList Datum.toText)

end PathPolicy

def openRequestOfDatum (d : Datum) : Except RequestError Path :=
  d.request "OpenWorkbookRequest" fun d => d.required "file_path" Datum.toPath

namespace CreateRequest

/-- The title of a new sheet unless the request names one. -/
def defaultTitle : String := "Sheet1"

def ofDatum (d : Datum) : Except RequestError CreateRequest :=
  d.request "CreateWorkbookRequest" fun d =>
    CreateRequest.mk <$> d.required "file_path" Datum.toPath <*>
      d.withDefault "on_conflict" .overwrite (Datum.toChoice ConflictPolicy.choices) <*>
      d.withDefault "initial_sheet_name" defaultTitle (Datum.toTextOf 1 (some 31))

end CreateRequest

/-- Four coordinates of which each is positive. -/
structure Corners where
  firstRow : { n : Nat // 1 ≤ n }
  firstColumn : { n : Nat // 1 ≤ n }
  lastRow : { n : Nat // 1 ≤ n }
  lastColumn : { n : Nat // 1 ≤ n }
  deriving DecidableEq, Repr

namespace Corners

/-- The rectangle between two corners, if the last one is not before the first one. -/
def toRectangle (c : Corners) : Checked Rectangle :=
  if h : c.firstRow.val ≤ c.lastRow.val then
    if h' : c.firstColumn.val ≤ c.lastColumn.val then
      .valid ⟨c.firstRow.val, c.firstColumn.val, c.lastRow.val, c.lastColumn.val,
        c.firstRow.property, c.firstColumn.property, h, h'⟩
    else .wrong (.inconsistent "last_column must be greater than or equal to first_column.")
  else .wrong (.inconsistent "last_row must be greater than or equal to first_row.")

/-- Reads the coordinates of two corners and applies a checked function to them. -/
def readAfter {α : Type} (d : Datum) (x : Checked (Corners → α)) : Checked α :=
  (fun f a b c e => f ⟨a, b, c, e⟩) <$> x <*>
    d.required "first_row" Datum.toPositive <*> d.required "first_column" Datum.toPositive <*>
    d.required "last_row" Datum.toPositive <*> d.required "last_column" Datum.toPositive

end Corners

namespace ReadRangeRequest

/-- The most cells that are read unless the request says otherwise. -/
def defaultMaxCells : { n : Nat // 1 ≤ n } := ⟨10000, by decide⟩

def ofDatum (d : Datum) : Except RequestError ReadRangeRequest :=
  d.request "ReadRangeRequest" fun d =>
    let fields : Checked (Corners × (Rectangle → ReadRangeRequest)) :=
      (fun f withReferences maxCells =>
        (f.2.2, fun r => ⟨f.1, f.2.1, r, withReferences, maxCells.val⟩)) <$>
        Corners.readAfter d ((fun path sheet corners => (path, sheet, corners)) <$>
          d.required "xlsx_path" Datum.toPath <*>
          d.required "sheet_name" (Datum.toTextOf 1 none)) <*>
        d.withDefault "cell_with_coord" false Datum.toBoolean <*>
        d.withDefault "max_cells" defaultMaxCells Datum.toPositive
    fields.andThen fun (corners, finish) => finish <$> corners.toRectangle

end ReadRangeRequest

namespace WriteRangeRequest

/-- Reads a request to write a block of values. -/
def ofDatum (d : Datum) : Except RequestError WriteRangeRequest :=
  d.request "WriteRangeRequest" fun d =>
    WriteRangeRequest.mk <$> d.required "xlsx_path" Datum.toPath <*>
      d.required "sheet_name" (Datum.toTextOf 1 none) <*>
      d.required "first_row" Datum.toPositive <*> d.required "first_column" Datum.toPositive <*>
      d.required "values" (Datum.toNonemptyList (Datum.toList Scalar.ofDatum)) <*>
      d.withDefault "auto_formula" false Datum.toBoolean

end WriteRangeRequest

namespace SetCellsRequest

/-- Reads a request to apply a batch. -/
def ofDatum (d : Datum) : Except RequestError SetCellsRequest :=
  d.request "SetCellsRequest" fun d =>
    SetCellsRequest.mk <$> d.required "xlsx_path" Datum.toPath <*>
      d.required "sheet_name" (Datum.toTextOf 1 none) <*>
      d.withDefault "cells" [] (Datum.toList Datum.toText) <*>
      d.withDefault "backend" .auto (Datum.toChoice EngineChoice.choices) <*>
      d.withDefault "auto_formula" false Datum.toBoolean

end SetCellsRequest

end WorkbookTools
