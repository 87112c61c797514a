import WorkbookTools.Error
import WorkbookTools.Instruction
import WorkbookTools.Workbook.Cell

/-!
# Applying edits

An edit is applied attribute by attribute in a fixed order: content, alignment, bold, italic,
underline, foreground, background. How one update is carried out is left to an engine, whose state
is a parameter. A value that the engine refuses is reported as the failure of the edit.
-/

namespace WorkbookTools

/-- An attribute that an edit can name. -/
inductive EditField where
  | content
  | alignment
  | bold
  | italic
  | underline
  | foreground
  | background
  deriving DecidableEq, Repr

def EditField.name : EditField → String
  | content => "content"
  | alignment => "alignment"
  | bold => "bold"
  | italic => "italic"
  | underline => "underline"
  | foreground => "foreground"
  | background => "background"

/-- What an edit has written. -/
structure AppliedEdit where
  index : Nat
  cell : String
  fields : List EditField
  deriving DecidableEq, Repr

/-- A computation on the state of an engine that may fail. -/
abbrev EditAction (σ : Type) := ExceptT Error (StateM σ)

/-- How an engine carries out an update in a row and a column. -/
abbrev Updater (σ : Type) := Int → Int → CellUpdate → EditAction σ Unit

namespace CellEdit

/-- The attributes that an edit names, with their updates, in the order of application. -/
def updates (e : CellEdit) : List (EditField × CellUpdate) :=
  (e.content.map fun s => (.content, .text s)).toList ++
    (e.style.alignment.map fun a => (.alignment, .alignment (some a) none)).toList ++
    (e.style.bold.map fun on => (.bold, .bold on)).toList ++
    (e.style.italic.map fun on => (.italic, .italic on)).toList ++
    (e.style.underline.map fun on => (.underline, .underline on)).toList ++
    (e.foreground.map fun c => (.foreground, .fontColor c)).toList ++
    (e.background.map fun c => (.background, .backgroundColor c)).toList

/-- What an edit writes when no update fails. -/
def applied (e : CellEdit) : AppliedEdit := ⟨e.index, e.cell, e.updates.map (·.1)⟩

variable {σ : Type}

/-- Carries out the updates of an edit up to the first one that fails. -/
def apply (update : Updater σ) (e : CellEdit) : EditAction σ AppliedEdit := do
  e.updates.forM fun (_, u) => update e.address.row e.address.column u
  pure e.applied

/-- The error of an edit whose update was refused; other errors are left as they are. -/
def failure (e : CellEdit) (error : Error) : Error :=
  if error.category.isRefusal then .edit e.index e.cell error.message else error

/-- Applies an edit and reports refused values as its failure. -/
def applyReported (update : Updater σ) (e : CellEdit) : EditAction σ AppliedEdit :=
  tryCatch (e.apply update) fun error => throw (e.failure error)

/-- Applies edits in order up to the first one that fails. -/
def applyAll (update : Updater σ) : List CellEdit → EditAction σ (List AppliedEdit)
  | [] => pure []
  | e :: rest => do
    let first ← e.applyReported update
    let others ← applyAll update rest
    pure (first :: others)

end CellEdit

end WorkbookTools
