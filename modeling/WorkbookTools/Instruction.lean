import WorkbookTools.Address
import WorkbookTools.Color
import WorkbookTools.Style
import WorkbookTools.Text.Quoted
import WorkbookTools.Instruction.Anchors

/-!
# Cell instructions

An instruction describes one edit of one cell in a line such as

    'Total'@B3#B$FF0000%00FF00

The content stands between quotes, `@` introduces the address, `#` the style tokens, `$` the colour
of the text and `%` the colour of the background. Only the address is required. Reading never fails:
an instruction that names no cell is a rejection, so a batch can skip it and go on.
-/

namespace WorkbookTools

/-- An edit of one cell: the attributes it names, with their new values. -/
structure CellEdit where
  index : Nat
  address : CellAddress
  content : Option String
  style : StyleRequest
  foreground : Option Color
  background : Option Color
  deriving DecidableEq, Repr

def CellEdit.cell (e : CellEdit) : String := e.address.reference

/-- Why an instruction names no cell. -/
inductive RejectionReason where
  /-- There is no address anchor. -/
  | missingAddress
  /-- The address field holds this text, which is no address. -/
  | invalidAddress (field : String)
  deriving DecidableEq, Repr

/-- An instruction that names no cell. -/
structure Rejection where
  index : Nat
  instruction : String
  reason : RejectionReason
  deriving DecidableEq, Repr

def RejectionReason.name : RejectionReason → String
  | .missingAddress => "missing_address"
  | .invalidAddress _ => "invalid_address"

/-- What is reported about a rejected instruction. -/
def Rejection.message (r : Rejection) : String :=
  "Instruction #" ++ toString r.index ++
    match r.reason with
    | .missingAddress => " has no '@' address marker: " ++ Text.quoted r.instruction
    | .invalidAddress field =>
      " has an invalid cell address " ++ Text.quoted field ++ ": " ++ Text.quoted r.instruction

namespace Instruction

/-- The fields of an instruction that has an address anchor. -/
structure Fields where
  content : Option (List Char)
  address : List Char
  style : Option (List Char)
  foreground : Option (List Char)
  background : Option (List Char)
  deriving DecidableEq, Repr

/-- The fields of an instruction, or `none` without an address anchor. -/
def fields? (s : List Char) : Option Fields :=
  let a := Anchors.scan s
  a.address.map fun position =>
    { content :=
        match a.content with
        | .closed start stop => some (Anchors.slice s start stop)
        | _ => none
      address := Anchors.field s position [a.style, a.foreground, a.background]
      style := a.style.map fun p => Anchors.field s p [a.foreground, a.background]
      foreground := a.foreground.map fun p => Anchors.field s p [a.background]
      background := a.background.map fun p => Anchors.field s p [] }

/-- The text of a colour field; an empty field counts as absent. -/
def colorText? : Option (List Char) → Option String
  | none | some [] => none
  | some digits => some (String.ofList digits)

/-- Reads the instruction at the given position of its batch. -/
def parse (index : Nat) (instruction : String) : Except Rejection CellEdit :=
  match fields? instruction.toList with
  | none => .error ⟨index, instruction, .missingAddress⟩
  | some f =>
    match decodeAddress (String.ofList f.address) with
    | none => .error ⟨index, instruction, .invalidAddress (String.ofList f.address)⟩
    | some address =>
      .ok
        { index, address
          content := f.content.map String.ofList
          style := StyleRequest.ofTokens (f.style.getD [])
          foreground := (colorText? f.foreground).map Color.ofText
          background := (colorText? f.background).map Color.ofText }

/-- The warnings about the colours of an instruction that is accepted. -/
def warnings (instruction : String) : List LogRecord :=
  match fields? instruction.toList with
  | none => []
  | some f =>
    if (decodeAddress (String.ofList f.address)).isNone then []
    else
      ((colorText? f.foreground).toList ++ (colorText? f.background).toList).flatMap Color.warnings

/-- Reads a batch, one result for each instruction. -/
def parseAll (instructions : List String) : List (Except Rejection CellEdit) :=
  instructions.mapIdx parse

end Instruction

end WorkbookTools
