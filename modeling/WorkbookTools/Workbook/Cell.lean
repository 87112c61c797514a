import WorkbookTools.Calendar
import WorkbookTools.Color
import WorkbookTools.Number.Decimal
import WorkbookTools.Style

/-!
# Cells

A cell has a kind, a value and a style. Assigning a value chooses the kind: a text that begins with
the equals sign is a formula, one of the seven error codes is an error, and a date also sets the
number format, unless the cell has a date format already. A setter of one attribute leaves the
others as they are.
-/

namespace WorkbookTools

/-- How a workbook marks a cell. -/
inductive CellKind where
  | number
  | text
  | boolean
  | formula
  | error
  | date
  /-- The mark of a cell that was saved with the empty text. -/
  | inlineText
  /-- The mark of a text that a formula gives. -/
  | formulaText
  deriving DecidableEq, Repr

def CellKind.mark : CellKind → String
  | number => "n"
  | text => "s"
  | boolean => "b"
  | formula => "f"
  | error => "e"
  | date => "d"
  | inlineText => "inlineStr"
  | formulaText => "str"

/-- What a cell holds. -/
inductive CellValue where
  | empty
  | boolean (b : Bool)
  | integer (n : Int)
  | number (x : Binary64)
  | text (s : String)
  | moment (m : Moment)
  deriving DecidableEq, Repr

/-- How a number is displayed. -/
inductive NumberFormat where
  | general
  | dateTime
  | date
  | time
  | duration
  deriving DecidableEq, Repr

/-- The format shows numbers as dates, times or durations. -/
def NumberFormat.isDate (f : NumberFormat) : Bool := f ≠ .general

/-- The lines below a text. -/
inductive Underline where
  | single
  | double
  | singleAccounting
  | doubleAccounting
  deriving DecidableEq, Repr

def Underline.name : Underline → String
  | single => "single"
  | double => "double"
  | singleAccounting => "singleAccounting"
  | doubleAccounting => "doubleAccounting"

/-- The font of a cell; the colour is that of the theme unless one is set. -/
structure Font where
  name : String
  size : Binary64
  bold : Bool
  italic : Bool
  underline : Option Underline
  color : Option String
  deriving DecidableEq, Repr

def Font.default : Font := ⟨"Calibri", .ofInt 11, false, false, none, none⟩

/-- The font as a copy or a file records it, with sixteen digits of the size. -/
def Font.recorded (f : Font) : Font := { f with size := f.size.toSixteenDigits }

/-- The full form of a colour in hexadecimal digits: six digits are preceded by two zeros. -/
def fullColor (digits : String) : String := if digits.length = 6 then "00" ++ digits else digits

/-- Where the content stands between the left and the right border: at a place that can be asked
for, or another one. -/
inductive HorizontalPlacement where
  | asked (a : HorizontalAlignment)
  | general
  | fill
  | justify
  | centerContinuous
  | distributed
  deriving DecidableEq, Repr

/-- Where the content stands between the upper and the lower border: at a place that can be asked
for, or another one. -/
inductive VerticalPlacement where
  | asked (a : VerticalAlignment)
  | justify
  | distributed
  deriving DecidableEq, Repr

def HorizontalPlacement.name : HorizontalPlacement → String
  | asked a => a.name
  | general => "general"
  | fill => "fill"
  | justify => "justify"
  | centerContinuous => "centerContinuous"
  | distributed => "distributed"

def VerticalPlacement.name : VerticalPlacement → String
  | asked a => a.name
  | justify => "justify"
  | distributed => "distributed"

def HorizontalPlacement.ofName? (name : String) : Option HorizontalPlacement :=
  [asked .left, asked .center, asked .right, general, fill, justify, centerContinuous,
    distributed].find? (·.name = name)

def VerticalPlacement.ofName? (name : String) : Option VerticalPlacement :=
  [asked .top, asked .center, asked .bottom, justify, distributed].find? (·.name = name)

/-- The position of the content in the cell. -/
structure Alignment where
  horizontal : Option HorizontalPlacement
  vertical : Option VerticalPlacement
  wrap : Bool
  deriving DecidableEq, Repr

/-- The attributes of a cell besides its value. A fill is solid, of the colour given. -/
structure CellStyle where
  numberFormat : NumberFormat
  font : Font
  fill : Option String
  alignment : Alignment
  deriving DecidableEq, Repr

def CellStyle.default : CellStyle := ⟨.general, .default, none, ⟨none, none, false⟩⟩

/-- A cell of a sheet. -/
structure Cell where
  kind : CellKind
  value : CellValue
  style : CellStyle
  deriving DecidableEq, Repr

/-- A change of one attribute of a cell. -/
inductive CellUpdate where
  | text (s : String)
  /-- An absent component is left alone. -/
  | alignment (horizontal : Option HorizontalAlignment) (vertical : Option VerticalAlignment)
  | bold (on : Bool)
  | italic (on : Bool)
  | underline (on : Bool)
  | fontColor (c : Color)
  | backgroundColor (c : Color)
  deriving DecidableEq, Repr

namespace Cell

def empty : Cell := ⟨.number, .empty, .default⟩

/-- The most characters that a cell holds. -/
def maxTextLength : Nat := 32767

/-- A control character that no cell may hold. -/
def isIllegal (c : Char) : Bool :=
  c.toNat < 0x20 && c ≠ '\t' && c ≠ '\n' && c ≠ '\r'

/-- The texts that are error values. -/
def errorCodes : List String :=
  ["#NULL!", "#DIV/0!", "#VALUE!", "#REF!", "#NAME?", "#NUM!", "#N/A"]

def kindOfText (s : String) : CellKind :=
  match s.toList with
  | '=' :: _ :: _ => .formula
  | _ => if s ∈ errorCodes then .error else .text

def formatOf : Moment → NumberFormat
  | .dateTime .. => .dateTime
  | .date _ => .date
  | .time _ => .time
  | .duration _ => .duration

/-- Assigns a text, cut to the greatest length. A text with a control character is refused, which
leaves the old value under the kind of texts; the error is the text. -/
def assignText (c : Cell) (s : String) : Except String Unit × Cell :=
  let kept := String.ofList (s.toList.take maxTextLength)
  if kept.toList.any isIllegal then (.error kept, { c with kind := .text })
  else (.ok (), { c with kind := kindOfText kept, value := .text kept })

/-- Assigns a value; the error is a text that is refused. -/
def assign (c : Cell) (v : CellValue) : Except String Unit × Cell :=
  match v with
  | .text s => c.assignText s
  | .moment m =>
    let format :=
      if c.style.numberFormat.isDate then c.style.numberFormat else formatOf m
    (.ok (), ⟨.date, v, { c.style with numberFormat := format }⟩)
  | .boolean _ => (.ok (), { c with kind := .boolean, value := v })
  | .empty | .integer _ | .number _ => (.ok (), { c with kind := .number, value := v })

/-- The text begins with the sign that introduces formulas. -/
def looksLikeFormula (s : String) : Bool := s.toList.head? = some '='

/-- Assigns a value that a request gives. Unless formulas are wanted, a text that begins with the
equals sign stays a text. -/
def write (autoFormula : Bool) (c : Cell) (v : CellValue) : Except String Unit × Cell :=
  match c.assign v, v with
  | (.ok (), written), .text s =>
    (.ok (), if looksLikeFormula s ∧ ¬ autoFormula then { written with kind := .text } else written)
  | result, _ => result

def setFont (c : Cell) (change : Font → Font) : Cell :=
  { c with style := { c.style with font := change c.style.font.recorded } }

/-- Changes one attribute; the error is a text that is refused. -/
def update (autoFormula : Bool) (c : Cell) : CellUpdate → Except String Unit × Cell
  | .text s => c.write autoFormula (.text s)
  | .alignment horizontal vertical =>
    let old := c.style.alignment
    (.ok (), { c with style := { c.style with alignment := { old with
      horizontal := horizontal.map .asked <|> old.horizontal
      vertical := vertical.map .asked <|> old.vertical } } })
  | .bold on => (.ok (), c.setFont fun f => { f with bold := on })
  | .italic on => (.ok (), c.setFont fun f => { f with italic := on })
  | .underline on =>
    (.ok (), c.setFont fun f => { f with underline := if on then some .single else none })
  | .fontColor color => (.ok (), c.setFont fun f => { f with color := some color.argb })
  | .backgroundColor color => (.ok (), { c with style := { c.style with fill := some color.argb } })

end Cell

end WorkbookTools
