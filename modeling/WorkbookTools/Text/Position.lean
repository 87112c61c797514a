/-!
# Positions in a text

A position is a line, counted from one, and a column, counted from zero in characters. A line ends
at a line feed, a carriage return or the two together.
-/

namespace WorkbookTools.Text

/-- A place in a text. -/
structure Position where
  line : Nat
  column : Nat
  deriving DecidableEq, Repr

namespace Position

/-- The beginning of a text. -/
def start : Position := ⟨1, 0⟩

def nextLine (p : Position) : Position := ⟨p.line + 1, 0⟩

def nextColumn (p : Position) : Position := ⟨p.line, p.column + 1⟩

/-- The position after a text that begins at a position. -/
def after (p : Position) : List Char → Position
  | [] => p
  | '\r' :: '\n' :: rest => p.nextLine.after rest
  | c :: rest => (if c = '\n' ∨ c = '\r' then p.nextLine else p.nextColumn).after rest

def ofFirst? (property : Char → Bool) (s : List Char) : Option Position :=
  if s.any property then some (start.after (s.takeWhile fun c => !property c)) else none

end Position

end WorkbookTools.Text
