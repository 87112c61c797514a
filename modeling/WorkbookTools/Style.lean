/-!
# Requested styles

A style request overrides some attributes of a cell and leaves the others alone. It is written as a
set of tokens: their order and number do not matter, and of contradictory tokens center wins over
left, left over right, and off over on.
-/

namespace WorkbookTools

/-- The position of the content between the left and the right border. -/
inductive HorizontalAlignment where
  | left
  | center
  | right
  deriving DecidableEq, Repr

/-- The position of the content between the top and the bottom border. -/
inductive VerticalAlignment where
  | top
  | center
  | bottom
  deriving DecidableEq, Repr

def HorizontalAlignment.name : HorizontalAlignment → String
  | .left => "left"
  | .center => "center"
  | .right => "right"

def VerticalAlignment.name : VerticalAlignment → String
  | .top => "top"
  | .center => "center"
  | .bottom => "bottom"

/-- The attributes to override; an absent one is left alone. -/
structure StyleRequest where
  alignment : Option HorizontalAlignment
  bold : Option Bool
  italic : Option Bool
  underline : Option Bool
  deriving DecidableEq, Repr

namespace StyleRequest

/-- The request that overrides nothing. -/
def empty : StyleRequest := ⟨none, none, none, none⟩

/-- No attribute is overridden. -/
def isEmpty (s : StyleRequest) : Bool :=
  s.alignment.isNone && s.bold.isNone && s.italic.isNone && s.underline.isNone

def alignmentToken : HorizontalAlignment → Char
  | .left => '⬅'
  | .center => '↔'
  | .right => '➡'

def flag (on off : Char) (tokens : List Char) : Option Bool :=
  if off ∈ tokens then some false else if on ∈ tokens then some true else none

/-- The request that a set of tokens spells; other characters are ignored. -/
def ofTokens (tokens : List Char) : StyleRequest where
  alignment :=
    if alignmentToken .center ∈ tokens then some .center
    else if alignmentToken .left ∈ tokens then some .left
    else if alignmentToken .right ∈ tokens then some .right
    else none
  bold := flag 'B' 'b' tokens
  italic := flag 'I' 'i' tokens
  underline := flag 'U' 'u' tokens

end StyleRequest

end WorkbookTools
