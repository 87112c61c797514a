import WorkbookTools.Text.Printable

/-!
# Quoted text

A text inside a message stands between quotes. The quote is a single one, unless the text holds
single quotes and no double quote. The quote in use and the backslash are escaped by a backslash,
line feed, carriage return and tab by their letter, and every other character that is not printable
by its code point in two, four or eight hexadecimal digits.
-/

namespace WorkbookTools.Text

/-- `n` in at least `width` digits of the given base, lower-case, with leading zeros. -/
def padded (base width n : Nat) : List Char :=
  let digits := Nat.toDigits base n
  List.replicate (width - digits.length) '0' ++ digits

/-- The written form of one character between quotes of the kind `quote`. -/
def quotedChar (quote c : Char) : List Char :=
  if c = '\\' ∨ c = quote then ['\\', c]
  else if c = '\n' then ['\\', 'n']
  else if c = '\r' then ['\\', 'r']
  else if c = '\t' then ['\\', 't']
  else if isPrintable c then [c]
  else if c.toNat < 0x100 then '\\' :: 'x' :: padded 16 2 c.toNat
  else if c.toNat < 0x10000 then '\\' :: 'u' :: padded 16 4 c.toNat
  else '\\' :: 'U' :: padded 16 8 c.toNat

/-- The quote that surrounds a text. -/
def quoteFor (s : List Char) : Char :=
  if '\'' ∈ s ∧ '"' ∉ s then '"' else '\''

/-- A text between quotes. -/
def quoted (s : String) : String :=
  let quote := quoteFor s.toList
  String.ofList (quote :: s.toList.flatMap (quotedChar quote) ++ [quote])

end WorkbookTools.Text
