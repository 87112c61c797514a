/-!
# Decoding bytes

A piece of a text in UTF-8 may begin or end within a character, and then it cannot be decoded. The
older character set of 256 characters has one for each byte.
-/

namespace WorkbookTools.Text

/-- Why bytes cannot be decoded. -/
inductive DecodingFault where
  /-- The byte does not begin a character. -/
  | noStart
  /-- The bytes end within a character. -/
  | cut
  deriving DecidableEq, Repr

/-- A failure to decode: where the bytes that are no character begin, the first of them, and how
many there are. -/
structure DecodingError where
  fault : DecodingFault
  position : Nat
  byte : Nat
  count : Nat
  deriving DecidableEq, Repr

/-- How many bytes follow the first byte of a character. -/
def followers (byte : Nat) : Nat :=
  if byte < 0x80 then 0 else if byte < 0xe0 then 1 else if byte < 0xf0 then 2 else 3

/-- The bits that the first byte of a character contributes. -/
def leadingBits (byte : Nat) : Nat :=
  if byte < 0x80 then byte
  else if byte < 0xe0 then byte % 32
  else if byte < 0xf0 then byte % 16
  else byte % 8

/-- The characters of a piece of a text in UTF-8 that begins at a position. -/
def decodeFrom (position : Nat) (bytes : List Nat) : Except DecodingError (List Char) :=
  match bytes with
  | [] => .ok []
  | b :: rest =>
    if 0x80 ≤ b ∧ b < 0xc0 then .error ⟨.noStart, position, b, 1⟩
    else if rest.length < followers b then .error ⟨.cut, position, b, rest.length + 1⟩
    else
      let code := (rest.take (followers b)).foldl (fun n next => n * 64 + next % 64) (leadingBits b)
      match decodeFrom (position + followers b + 1) (rest.drop (followers b)) with
      | .ok others => .ok (Char.ofNat code :: others)
      | .error e => .error e
termination_by bytes.length
decreasing_by simp only [List.length_drop, List.length_cons]; omega

/-- The text that bytes in UTF-8 stand for. -/
def decode (bytes : List Nat) : Except DecodingError String :=
  (decodeFrom 0 bytes).map String.ofList

/-- The upper half of the older character set. -/
def upperHalf : List Char :=
  ("ÇüéâäàåçêëèïîìÄÅÉæÆôöòûùÿÖÜ¢£¥₧ƒáíóúñÑªº¿⌐¬½¼¡«»░▒▓│┤╡╢╖╕╣║╗╝╜╛┐└┴┬├─┼╞╟╚╔╩╦╠═╬╧" ++
    "╨╤╥╙╘╒╓╫╪┘┌█▄▌▐▀αßΓπΣσµτΦΘΩδ∞φε∩≡±≥≤⌠⌡÷≈°∙·√ⁿ²■\u00a0").toList

/-- The text that bytes in the older character set stand for. -/
def decodeOlder (bytes : List Nat) : String :=
  String.ofList <| bytes.map fun b =>
    if b < 0x80 then Char.ofNat b else upperHalf.getD (b - 0x80) ' '

end WorkbookTools.Text
