/-!
# Upper-case ASCII letters

Full case mapping sends a few letters outside ASCII to one or more ASCII letters: the sharp s, the
dotless i, the long s and the Latin ligatures. No other character outside ASCII has an upper-case
form made of ASCII letters only.
-/

namespace WorkbookTools.Text

/-- The upper-case form of a character, if it consists of ASCII letters. -/
def upperLetters? (c : Char) : Option (List Char) :=
  if c.isAlpha then some [c.toUpper]
  else match c.toNat with
    | 0xdf => some ['S', 'S']
    | 0x131 => some ['I']
    | 0x17f => some ['S']
    | 0xfb00 => some ['F', 'F']
    | 0xfb01 => some ['F', 'I']
    | 0xfb02 => some ['F', 'L']
    | 0xfb03 => some ['F', 'F', 'I']
    | 0xfb04 => some ['F', 'F', 'L']
    | 0xfb05 => some ['S', 'T']
    | 0xfb06 => some ['S', 'T']
    | _ => none

/-- The upper-case form of a text, if it consists of ASCII letters. -/
def upperWord? : List Char → Option (List Char)
  | [] => some []
  | c :: rest => do
    let letters ← upperLetters? c
    let others ← upperWord? rest
    pure (letters ++ others)

end WorkbookTools.Text
