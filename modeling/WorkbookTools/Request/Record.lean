import WorkbookTools.Request.Fields

/-!
# Records as data

Answers, and the parts that instructions consist of, can be given as plain data as well. A model
names the fields of a record, the check of each and what stands for a field that is absent. Reading
a record checks its fields in order and gives the record with all its fields.
-/

namespace WorkbookTools

/-- A field of a record; one without a default has to be there. -/
structure FieldRule where
  name : String
  check : Datum → Checked Datum
  default : Option Datum

/-- The fields of a record, under a name. -/
structure RecordModel where
  name : String
  fields : List FieldRule

namespace FieldRule

def read (rule : FieldRule) (d : Datum) : Checked Datum :=
  match rule.default with
  | none => d.required rule.name rule.check
  | some value => d.withDefault rule.name value rule.check

/-- Reads fields of a record in order. -/
def readAll (d : Datum) : List FieldRule → Checked (List (String × Datum))
  | [] => .valid []
  | rule :: rest =>
    (fun value others => (rule.name, value) :: others) <$> rule.read d <*> readAll d rest

def needed (name : String) (check : Datum → Checked Datum) : FieldRule := ⟨name, check, none⟩

/-- A list that is empty unless it is given. -/
def listOf (name : String) (check : Datum → Checked Datum) : FieldRule :=
  ⟨name, fun d => .list <$> d.toList check, some (.list [])⟩

/-- A value that is null unless it is given. -/
def optional (name : String) (check : Datum → Checked Datum) : FieldRule :=
  ⟨name, fun d => (·.getD .null) <$> d.toOptional check, some .null⟩

end FieldRule

namespace RecordModel

/-- Checks a record, which may be part of another one. -/
def check (m : RecordModel) (d : Datum) : Checked Datum :=
  if d.isRecord then .record <$> FieldRule.readAll d m.fields else .wrong (.notRecord m.name)

def read (m : RecordModel) (d : Datum) : Except RequestError Datum :=
  Checked.result m.name (m.check d)

/-- A record without fields gets the defaults. -/
def defaults (m : RecordModel) : Datum :=
  .record (m.fields.map fun rule => (rule.name, rule.default.getD .null))

/-! ## Values of fields -/

def text (d : Datum) : Checked Datum := .text <$> d.toText

def integer (d : Datum) : Checked Datum := .integer <$> d.toInteger

def natural (d : Datum) : Checked Datum := (fun n => .integer n.val) <$> d.toIntegerFrom 0

/-- A natural number between two bounds. -/
def between (least greatest : Nat) (d : Datum) : Checked Datum :=
  (fun n => .integer n.val) <$> d.toBetween least greatest

def boolean (d : Datum) : Checked Datum := .boolean <$> d.toBoolean

def scalar (d : Datum) : Checked Datum := (fun _ => d) <$> Scalar.ofDatum d

def oneOf (names : List String) (d : Datum) : Checked Datum :=
  .text <$> d.toChoice (names.map fun name => (name, name))

def list (check : Datum → Checked Datum) (d : Datum) : Checked Datum := .list <$> d.toList check

/-- A table of values under any names. -/
def table (check : Datum → Checked Datum) (d : Datum) : Checked Datum :=
  match d with
  | .record fields => .record <$> FieldRule.readAll d (fields.map fun f => .needed f.1 check)
  | _ => .wrong .notTable

/-! ## Parts of instructions -/

def address : RecordModel :=
  ⟨"CellAddress", [.needed "row" (between 1 maxIndex), .needed "column" (between 1 maxIndex)]⟩

/-- A colour. -/
def color : RecordModel :=
  ⟨"RGBColor", ["r", "g", "b"].map fun name => ⟨name, between 0 255, some (.integer 0)⟩⟩

/-- The style that an edit asks for. -/
def style : RecordModel :=
  ⟨"StyleFlags",
    .optional "alignment" (oneOf ["left", "center", "right"]) ::
      ["bold", "italic", "underline"].map fun name => .optional name boolean⟩

/-- The reasons why an instruction is rejected. -/
def reasons : List String := ["missing_address", "invalid_address"]

def edit : RecordModel :=
  ⟨"CellEdit",
    [⟨"index", natural, some (.integer 0)⟩, .needed "address" address.check,
      .optional "content" text, ⟨"style", style.check, some style.defaults⟩,
      .optional "foreground" color.check, .optional "background" color.check]⟩

/-- A rejected instruction. -/
def rejection : RecordModel :=
  ⟨"InstructionRejected",
    [⟨"index", natural, some (.integer 0)⟩, .needed "instruction" text,
      .needed "outcome" (oneOf reasons), .optional "address_text" text]⟩

/-- Where the anchors of an instruction stand. -/
def anchors : RecordModel :=
  ⟨"_AnchorScan",
    [.optional "content" text, .optional "address_anchor" integer,
      ⟨"tail_anchors", table integer, some (.record [])⟩]⟩

/-! ## Answers -/

/-- An edit that was carried out. -/
def appliedEdit : RecordModel :=
  ⟨"AppliedCellItem",
    [.needed "index" integer, .needed "cell" text,
      .listOf "fields" (oneOf ([EditField.content, .alignment, .bold, .italic, .underline,
        .foreground, .background].map EditField.name))]⟩

def failedEdit : RecordModel :=
  ⟨"CellEditErrorDetail",
    [.needed "index" integer, .needed "cell" text, .needed "message" text]⟩

def skippedInstruction : RecordModel :=
  ⟨"SkippedInstruction",
    [.needed "index" integer, .needed "instruction" text, .needed "reason" (oneOf reasons),
      .needed "message" text]⟩

/-- Whether Excel can be used. -/
def availability : RecordModel :=
  ⟨"ComAvailability", [.needed "available" boolean, .optional "reason" text]⟩

def openedFields : List FieldRule := [.needed "file_path" text, .listOf "sheet_names" text]

/-- The fields of a new workbook. -/
def createdFields : List FieldRule :=
  [.needed "file_path" text, .needed "created" boolean, .listOf "sheet_names" text,
    .listOf "warnings" text]

def rangeFields : List FieldRule :=
  [.needed "sheet_name" text, .needed "range" text, .optional "values" (list (list scalar)),
    .optional "cells" (list text)]

def writtenFields : List FieldRule := [.needed "range" text, .needed "cell_count" integer]

/-- The fields of a batch that was applied. -/
def editedFields : List FieldRule :=
  [.listOf "applied" appliedEdit.check, .listOf "skipped" skippedInstruction.check,
    .listOf "warnings" text,
    ⟨"engine", oneOf ([Engine.excel, .file].map Engine.name), some (.text Engine.file.name)⟩]

/-- The path of the workbook that an answer is about. -/
def bookField : FieldRule := .needed "xlsx_path" text

/-- The sheet that an answer is about. -/
def sheetField : FieldRule := .needed "sheet_name" text

/-- All models. Most answers have two, one of the operation and one of the tool. -/
def all : List RecordModel :=
  [address, color, style, edit, rejection, anchors, appliedEdit, failedEdit, skippedInstruction,
    availability,
    ⟨"OpenWorkbookResult", openedFields⟩, ⟨"OpenExcelToolOutput", openedFields⟩,
    ⟨"CreateWorkbookResult", createdFields⟩, ⟨"CreateXlsxToolOutput", createdFields⟩,
    ⟨"ReadRangeResult", rangeFields⟩, ⟨"GetRangeToolOutput", rangeFields⟩,
    ⟨"WriteRangeResult", bookField :: sheetField :: writtenFields⟩,
    ⟨"SetRangeToolOutput", bookField :: writtenFields⟩,
    ⟨"SetCellsResult", bookField :: sheetField :: editedFields⟩,
    ⟨"SetCellsToolOutput", bookField :: editedFields⟩]

def find? (name : String) : Option RecordModel := all.find? (·.name = name)

end RecordModel

end WorkbookTools
