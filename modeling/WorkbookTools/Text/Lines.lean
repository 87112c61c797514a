/-!
# Lines

A line ends at a line feed, a carriage return, the two together, a vertical tab, a form feed, one of
the separators U+001C to U+001E, a next-line character or one of the separators U+2028 and U+2029.
What follows the last of these ends is a line only if it is not empty.
-/

namespace WorkbookTools.Text

def isLineEnd (c : Char) : Bool :=
  let n := c.toNat
  (10 ≤ n && n ≤ 13) || (0x1c ≤ n && n ≤ 0x1e) || n == 0x85 || n == 0x2028 || n == 0x2029

/-- The lines of a text whose current line begins with the given characters, in reverse. -/
def linesFrom (line : List Char) : List Char → List String
  | [] => if line = [] then [] else [String.ofList line.reverse]
  | '\r' :: '\n' :: rest => String.ofList line.reverse :: linesFrom [] rest
  | c :: rest =>
    if isLineEnd c then String.ofList line.reverse :: linesFrom [] rest
    else linesFrom (c :: line) rest

/-- The lines of a text, without their ends. -/
def lines (s : String) : List String := linesFrom [] s.toList

end WorkbookTools.Text
