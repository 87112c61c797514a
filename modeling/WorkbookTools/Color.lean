import WorkbookTools.Log

/-!
# Colours

A colour has three channels of eight bits. It is written as six hexadecimal digits, as eight with an
opaque alpha channel in front, or as one number with red in the lowest byte. A text that is not made
of six hexadecimal digits stands for black; it is worth a warning only if it has the right length.
-/

namespace WorkbookTools

/-- A colour by its channels. -/
structure Color where
  red : UInt8
  green : UInt8
  blue : UInt8
  deriving DecidableEq, Repr

namespace Color

/-- The colour without light, which stands for a malformed text. -/
def black : Color := ⟨0, 0, 0⟩

/-- The value of a hexadecimal digit of either case. -/
def hexDigitValue? (c : Char) : Option Nat :=
  if '0' ≤ c ∧ c ≤ '9' then some (c.toNat - 48)
  else if 'A' ≤ c ∧ c ≤ 'F' then some (c.toNat - 55)
  else if 'a' ≤ c ∧ c ≤ 'f' then some (c.toNat - 87)
  else none

/-- The upper-case hexadecimal digit of a number below sixteen. -/
def hexDigit (n : Nat) : Char := if n < 10 then Char.ofNat (48 + n) else Char.ofNat (55 + n)

def channelDigits (channel : UInt8) : List Char :=
  [hexDigit (channel.toNat / 16), hexDigit (channel.toNat % 16)]

/-- The channel that two hexadecimal digits spell. -/
def channel? (high low : Char) : Option UInt8 := do
  let h ← hexDigitValue? high
  let l ← hexDigitValue? low
  pure (UInt8.ofNat (16 * h + l))

/-- The colour of exactly six hexadecimal digits. -/
def ofDigits? : List Char → Option Color
  | [r₁, r₀, g₁, g₀, b₁, b₀] => do
    pure ⟨← channel? r₁ r₀, ← channel? g₁ g₀, ← channel? b₁ b₀⟩
  | _ => none

/-- The colour that a text stands for; black if it is malformed. -/
def ofText (text : String) : Color := (ofDigits? text.toList).getD black

/-- The warning for a text of six characters that is not a colour. -/
def warnings (text : String) : List LogRecord :=
  if text.length = 6 ∧ (ofDigits? text.toList).isNone then
    [⟨.warning, "excelauto.core.color", "Invalid hex color string: " ++ text⟩]
  else []

/-- Red, green and blue in two upper-case hexadecimal digits each. -/
def hex (c : Color) : String :=
  String.ofList (channelDigits c.red ++ channelDigits c.green ++ channelDigits c.blue)

/-- The colour behind an opaque alpha channel. -/
def argb (c : Color) : String := "FF" ++ c.hex

/-- The colour as a number, red in the lowest byte. -/
def number (c : Color) : Nat := c.red.toNat + 256 * c.green.toNat + 65536 * c.blue.toNat

end Color

end WorkbookTools
