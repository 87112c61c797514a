import WorkbookTools.Text.Quoted

/-!
# Bytes of an archive

Numbers in an archive are written with the least significant byte first, and its records begin with
a signature of four bytes.
-/

namespace WorkbookTools.Archive

def bytesOf (s : String) : List Nat := s.toUTF8.toList.map UInt8.toNat

/-- The number in the given count of bytes at an offset, the least significant byte first. -/
def numberAt (bytes : List Nat) (offset count : Nat) : Nat :=
  ((bytes.drop offset).take count).foldr (fun b n => b + 256 * n) 0

/-- The signature of a record: two letters and the two bytes that tell its kind. -/
def signature (kind next : Nat) : List Nat := [0x50, 0x4b, kind, next]

/-- A signature stands at an offset. -/
def isSigned (bytes : List Nat) (offset : Nat) (sign : List Nat) : Bool :=
  (bytes.drop offset).take 4 = sign

/-- The offset at which a signature stands for the last time. -/
def lastOccurrence (sign : List Nat) : List Nat → Option Nat
  | [] => none
  | b :: rest =>
    match lastOccurrence sign rest with
    | some offset => some (offset + 1)
    | none => if sign <+: b :: rest then some 0 else none

/-! ## The checksum -/

/-- One step of the division by the generating polynomial, whose bits are given in reverse. -/
def checksumStep (n : UInt32) : UInt32 :=
  if n &&& 1 = 1 then (n >>> 1) ^^^ 0xedb88320 else n >>> 1

/-- The remainder after one more byte. -/
def checksumByte (n : UInt32) (byte : Nat) : UInt32 :=
  Nat.repeat checksumStep 8 (n ^^^ UInt32.ofNat byte)

/-- The checksum of a row of bytes: the complement of the remainder that begins with all ones. -/
def checksum (bytes : List Nat) : Nat :=
  (bytes.foldl checksumByte 0xffffffff ^^^ 0xffffffff).toNat

/-! ## Messages -/

/-- The written form of one byte between quotes of the kind `quote`. -/
def quotedByte (quote : Char) (byte : Nat) : List Char :=
  if byte < 0x7f then Text.quotedChar quote (Char.ofNat byte)
  else '\\' :: 'x' :: Text.padded 16 2 byte

/-- Bytes between quotes, with a letter in front that tells them from a text. -/
def quotedBytes (bytes : List Nat) : String :=
  let quote := Text.quoteFor (bytes.map Char.ofNat)
  String.ofList ('b' :: quote :: bytes.flatMap (quotedByte quote) ++ [quote])

end WorkbookTools.Archive
