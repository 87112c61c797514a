import WorkbookTools.Request.Fields

/-!
# Inputs of tools

A tool works on the current workbook, so its input names a sheet and a range but no file. The sheet
and the values are checked only loosely here, and once more when the request is made.
-/

namespace WorkbookTools.Tool

/-- The input of the tool that opens a workbook. -/
structure OpenInput where
  path : String
  deriving DecidableEq, Repr

/-- The input of the tool that creates a workbook. -/
structure CreateInput where
  path : String
  onConflict : Option ConflictPolicy
  deriving DecidableEq, Repr

/-- The input of the tool that reads a range. -/
structure GetRangeInput where
  sheet : String
  corners : Corners
  withReferences : Bool
  deriving DecidableEq, Repr

/-- The input of the tool that writes a block of values. -/
structure SetRangeInput where
  sheet : String
  firstRow : { n : Nat // 1 ≤ n }
  firstColumn : { n : Nat // 1 ≤ n }
  values : List (List Scalar)
  deriving DecidableEq, Repr

/-- The input of the tool that applies a batch. -/
structure SetCellsInput where
  sheet : String
  instructions : List String
  engine : Option EngineChoice
  deriving DecidableEq, Repr

/-- Reads the input of the tool that opens a workbook. -/
def OpenInput.ofDatum (d : Datum) : Except RequestError OpenInput :=
  d.request "OpenExcelToolInput" fun d => OpenInput.mk <$> d.required "file_path" Datum.toText

/-- Reads the input of the tool that creates a workbook. -/
def CreateInput.ofDatum (d : Datum) : Except RequestError CreateInput :=
  d.request "CreateXlsxToolInput" fun d =>
    CreateInput.mk <$> d.required "file_path" Datum.toText <*>
      d.withDefault "on_conflict" none
        (Datum.toOptional (Datum.toChoice ConflictPolicy.choices))

/-- Reads the input of the tool that reads a range. -/
def GetRangeInput.ofDatum (d : Datum) : Except RequestError GetRangeInput :=
  d.request "GetRangeToolInput" fun d =>
    (fun f withReferences => ⟨f.1, f.2, withReferences⟩) <$>
      Corners.readAfter d ((fun sheet corners => (sheet, corners)) <$>
        d.required "sheet_name" Datum.toText) <*>
      d.withDefault "cell_with_coord" false Datum.toBoolean

/-- Reads the input of the tool that writes a block of values. -/
def SetRangeInput.ofDatum (d : Datum) : Except RequestError SetRangeInput :=
  d.request "SetRangeToolInput" fun d =>
    SetRangeInput.mk <$> d.required "sheet_name" Datum.toText <*>
      d.required "first_row" Datum.toPositive <*> d.required "first_column" Datum.toPositive <*>
      d.required "values" (Datum.toList (Datum.toList Scalar.ofDatum))

/-- Reads the input of the tool that applies a batch. -/
def SetCellsInput.ofDatum (d : Datum) : Except RequestError SetCellsInput :=
  d.request "SetCellsToolInput" fun d =>
    SetCellsInput.mk <$> d.required "sheet_name" Datum.toText <*>
      d.withDefault "cells" [] (Datum.toList Datum.toText) <*>
      d.withDefault "backend" none (Datum.toOptional (Datum.toChoice EngineChoice.choices))

/-! ## Requests that inputs stand for -/

def checkSheet (name : String) : Checked String :=
  Checked.inside "sheet_name" ((Datum.text name).toTextOf 1 none)

def GetRangeInput.request (i : GetRangeInput) (path : Path) :
    Except RequestError ReadRangeRequest :=
  Checked.result "ReadRangeRequest" <| (checkSheet i.sheet).andThen fun sheet =>
    i.corners.toRectangle.andThen fun r =>
      .valid ⟨path, sheet, r, i.withReferences, ReadRangeRequest.defaultMaxCells.val⟩

/-- The values of a request, which must not be empty. -/
def checkValues (rows : List (List Scalar)) :
    Checked { rows : List (List Scalar) // rows ≠ [] } :=
  Checked.inside "values" (if h : rows = [] then .wrong .emptyList else .valid ⟨rows, h⟩)

/-- The request to write a block of values to a workbook. -/
def SetRangeInput.request (i : SetRangeInput) (path : Path) (autoFormula : Checked Bool) :
    Except RequestError WriteRangeRequest :=
  Checked.result "WriteRangeRequest" <|
    (fun sheet values auto => ⟨path, sheet, i.firstRow, i.firstColumn, values, auto⟩) <$>
      checkSheet i.sheet <*> checkValues i.values <*> Checked.inside "auto_formula" autoFormula

/-- The request to apply a batch to a workbook; the input's choice of an engine comes before the
other one. -/
def SetCellsInput.request (i : SetCellsInput) (path : Path) (engine : Checked EngineChoice)
    (autoFormula : Checked Bool) : Except RequestError SetCellsRequest :=
  Checked.result "SetCellsRequest" <|
    (fun sheet choice auto => ⟨path, sheet, i.instructions, choice, auto⟩) <$>
      checkSheet i.sheet <*>
      Checked.inside "backend" ((i.engine.map Checked.valid).getD engine) <*>
      Checked.inside "auto_formula" autoFormula

/-- The request to create a workbook; the input's conflict policy comes before the other one. -/
def CreateInput.request (i : CreateInput) (onConflict : Checked ConflictPolicy) :
    Except RequestError CreateRequest :=
  Checked.result "CreateWorkbookRequest" <|
    (fun policy => ⟨Path.ofText i.path, policy, CreateRequest.defaultTitle⟩) <$>
      Checked.inside "on_conflict" ((i.onConflict.map Checked.valid).getD onConflict)

end WorkbookTools.Tool
