import WorkbookTools.Address
import WorkbookTools.Markup.Name
import WorkbookTools.Text.Blank
import WorkbookTools.Text.Position
import WorkbookTools.Workbook
import WorkbookTools.Workbook.Written

/-!
# The markup of a workbook

A workbook is written as markup: a list of its sheets with their titles, a list of its fonts among
other styles, and for each sheet its extent and its cells row by row. A text may hold characters
that markup must not have; it is written all the same, and reading fails at the place of the first.
For that place the markup up to the last text is needed, and nothing beyond it.
-/

namespace WorkbookTools

namespace Markup

/-- A character of a text. -/
def escaped : Char → String
  | '&' => "&amp;"
  | '<' => "&lt;"
  | '>' => "&gt;"
  | c => c.toString

def escapedInAttribute : Char → String
  | '"' => "&quot;"
  | '\r' => "&#13;"
  | '\n' => "&#10;"
  | '\t' => "&#09;"
  | c => escaped c

/-- A text between tags. -/
def text (s : String) : String := String.join (s.toList.map escaped)

/-- An attribute with a blank before it. -/
def property (name value : String) : String :=
  " " ++ name ++ "=\"" ++ String.join (value.toList.map escapedInAttribute) ++ "\""

def element (name attributes content : String) : String :=
  if content = "" then "<" ++ name ++ attributes ++ " />"
  else "<" ++ name ++ attributes ++ ">" ++ content ++ "</" ++ name ++ ">"

/-! ## The list of sheets -/

/-- The name of the vocabulary of sheets. -/
def vocabulary : String := "http://schemas.openxmlformats.org/spreadsheetml/2006/main"

/-- The name of the vocabulary of relations between the parts of a workbook. -/
def relations : String := "http://schemas.openxmlformats.org/officeDocument/2006/relationships"

/-- What stands before the list of sheets. -/
def beforeTitles : String :=
  "<workbook" ++ property "xmlns:r" relations ++ property "xmlns" vocabulary ++ ">" ++
    "<workbookPr /><workbookProtection /><bookViews>" ++
    element "workbookView"
      (property "visibility" "visible" ++ property "minimized" "0" ++
        property "showHorizontalScroll" "1" ++ property "showVerticalScroll" "1" ++
        property "showSheetTabs" "1" ++ property "tabRatio" "600" ++ property "firstSheet" "0" ++
        property "activeTab" "0" ++ property "autoFilterDateGrouping" "1") "" ++
    "</bookViews><sheets>"

/-- A sheet in the list of sheets; they are numbered from one on. -/
def title (index : Nat) (name : String) : String :=
  let number := toString (index + 1)
  element "sheet"
    (property "name" name ++ property "sheetId" number ++ property "state" "visible" ++
      property "r:id" ("rId" ++ number)) ""

def titles (names : List String) : String :=
  beforeTitles ++ String.join (names.mapIdx title)

/-! ## The list of fonts -/

def valued (name value : String) : String := element name (property "val" value) ""

/-- The code of a number format, unless the format is one of those that every workbook has. -/
def formatCode? : NumberFormat → Option String
  | .dateTime => some "yyyy-mm-dd h:mm:ss"
  | .date => some "yyyy-mm-dd"
  | .duration => some "[hh]:mm:ss"
  | .general | .time => none

def counted (name : String) (elements : List String) : String :=
  element name (property "count" (toString elements.length)) (String.join elements)

/-- A number format; they are numbered from 164 on. -/
def numberFormat (index : Nat) (code : String) : String :=
  element "numFmt"
    (property "numFmtId" (toString (164 + index)) ++ property "formatCode" code) ""

/-- The font of new cells. -/
def firstFont : String :=
  element "font" ""
    (valued "name" Font.default.name ++ valued "family" "2" ++
      element "color" (property "theme" "1") "" ++ valued "sz" "11" ++ valued "scheme" "minor")

def font (f : Font) : String :=
  element "font" ""
    (valued "name" f.name ++ (if f.bold then valued "b" "1" else "") ++
      (if f.italic then valued "i" "1" else "") ++
      ((f.color.map fun c => element "color" (property "rgb" c) "").getD "") ++
      valued "sz" (WrittenValue.ofNumber f.size).written ++
      ((f.underline.map fun u => valued "u" u.name).getD ""))

def fonts (styles : List CellStyle) : String :=
  let codes := (styles.filterMap fun s => formatCode? s.numberFormat).eraseDups
  let others := ((styles.map (·.font)).filter (· ≠ .default)).eraseDups
  "<styleSheet" ++ property "xmlns" vocabulary ++ ">" ++
    counted "numFmts" (codes.mapIdx numberFormat) ++ counted "fonts" (firstFont :: others.map font)

/-! ## Sheets -/

/-- The mark of a cell as an attribute. -/
def mark : WrittenMark → String
  | .absent => ""
  | .number => property "t" "n"
  | .boolean => property "t" "b"
  | .error => property "t" "e"
  | .inlineText => property "t" "inlineStr"
  | .formulaText => property "t" "str"

/-- A text with blanks at its ends, and not only blanks, says that they belong to it. -/
def inlineText (s : String) : String :=
  let bare := Text.trim Text.isBlank s.toList
  let keep := if bare = [] ∨ bare = s.toList then "" else property "xml:space" "preserve"
  element "is" "" (element "t" keep (text s))

def content : WrittenContent → String
  | .nothing => ""
  | .formula s => element "f" "" (text s) ++ element "v" "" ""
  | .inline s => inlineText s
  | .value v => element "v" "" (text v.written)

/-- The number of a style among the styles of a workbook, of which the first one is that of new
cells. -/
def styleNumber (styles : List CellStyle) (s : CellStyle) : String :=
  if s = .default then "" else property "s" (toString (styles.idxOf s + 1))

def cell (styles : List CellStyle) (row column : Nat) (c : WrittenCell) : String :=
  element "c"
    (property "r" (cellName row column) ++ styleNumber styles c.style ++ mark c.mark)
    (content c.content)

def row (styles : List CellStyle) (number : Nat) (columns : IndexMap Cell) : String :=
  let cells := columns.toList.filterMap fun (column, c) =>
    c.written?.map (cell styles number column)
  element "row" (property "r" (toString number)) (String.join cells)

/-- The references of the first and the last cell of the smallest range that holds all cells. -/
def extent (s : Sheet) : String :=
  let columns := s.cells.map fun (_, column, _) => column
  match s.rows.minKey?, s.rows.maxKey?, columns.min?, columns.max? with
  | some firstRow, some lastRow, some firstColumn, some lastColumn =>
    cellName firstRow firstColumn ++ ":" ++ cellName lastRow lastColumn
  | _, _, _, _ => "A1:A1"

def beforeRows (s : Sheet) : String :=
  "<worksheet" ++ property "xmlns" vocabulary ++ "><sheetPr>" ++
    element "outlinePr" (property "summaryBelow" "1" ++ property "summaryRight" "1") "" ++
    "<pageSetUpPr /></sheetPr>" ++ element "dimension" (property "ref" (extent s)) "" ++
    "<sheetViews>" ++
    element "sheetView" (property "workbookViewId" "0")
      (element "selection" (property "activeCell" "A1" ++ property "sqref" "A1") "") ++
    "</sheetViews>" ++
    element "sheetFormatPr" (property "baseColWidth" "8" ++ property "defaultRowHeight" "15") "" ++
    "<sheetData>"

/-- A sheet up to its last row. -/
def sheet (styles : List CellStyle) (s : Sheet) : String :=
  beforeRows s ++ String.join (s.rows.toList.map fun (number, columns) => row styles number columns)

/-- The place of the first character that markup must not have. -/
def faultIn? (markup : String) : Option Text.Position :=
  Text.Position.ofFirst? isForeign markup.toList

end Markup

/-- The styles of a workbook in the order in which they are met, without that of new cells. -/
def Workbook.styles (w : Workbook) : List CellStyle :=
  let used := w.sheets.flatMap fun (_, s) => s.cells.filterMap fun (_, _, c) =>
    if c.style = .default then none else some c.style
  used.eraseDups

end WorkbookTools
