import WorkbookTools.Markup.Document

/-!
# Documents in bytes

The first bytes of a document tell whether its characters have one byte or more, or two bytes or
four. The declaration may name the encoding, which must not contradict the first bytes. Bytes that
stand for no character are read as a character that markup must not have.
-/

namespace WorkbookTools.Markup

/-- How the characters of a document are stored. -/
inductive Encoding where
  | narrow
  | wide (isBigEndian : Bool)
  deriving DecidableEq, Repr

def Encoding.ofBytes : List Nat → Encoding
  | 0xfe :: 0xff :: _ => wide true
  | 0xff :: 0xfe :: _ => wide false
  | 0 :: _ => wide true
  | _ :: 0 :: _ => wide false
  | _ => narrow

/-- The character that stands for bytes without one. -/
def noCharacter : Char := '\x00'

/-- The number of a character from its bytes, if they are of the right number and kind. -/
def narrowNumber? (first : Nat) (others : List Nat) : Option Nat :=
  let code := others.foldl (fun n b => n * 64 + b % 64) (Text.leadingBits first)
  let least := [0, 0x80, 0x800, 0x10000].getD others.length 0
  if others.all (fun b => 0x80 ≤ b && b < 0xc0) ∧ least ≤ code ∧ code.isValidChar ∧
      (first < 0x80 ∨ 0xc0 ≤ first ∧ first < 0xf8) then some code
  else none

/-- The characters of bytes, and whether the bytes end within a character. -/
def narrowCharacters (bytes : List Nat) : List Char × Bool :=
  match bytes with
  | [] => ([], false)
  | b :: rest =>
    if 0xc0 ≤ b ∧ b < 0xf5 ∧ rest.length < Text.followers b then ([], true)
    else
      match narrowNumber? b (rest.take (Text.followers b)) with
      | some code =>
        let (others, isCut) := narrowCharacters (rest.drop (Text.followers b))
        (Char.ofNat code :: others, isCut)
      | none =>
        let (others, isCut) := narrowCharacters rest
        (noCharacter :: others, isCut)
termination_by bytes.length
decreasing_by
  · simp only [List.length_drop, List.length_cons]; omega
  · simp only [List.length_cons]; omega

/-- The units of two bytes each; a single byte at the end is left out. -/
def wideUnits (isBigEndian : Bool) : List Nat → List Nat
  | a :: b :: rest =>
    (if isBigEndian then 256 * a + b else a + 256 * b) :: wideUnits isBigEndian rest
  | _ => []

def wideCharacters : List Nat → List Char
  | [] => []
  | [u] => [if u.isValidChar then Char.ofNat u else noCharacter]
  | u :: v :: rest =>
    if 0xd800 ≤ u ∧ u < 0xdc00 ∧ 0xdc00 ≤ v ∧ v < 0xe000 then
      Char.ofNat (0x10000 + (u - 0xd800) * 0x400 + (v - 0xdc00)) :: wideCharacters rest
    else (if u.isValidChar then Char.ofNat u else noCharacter) :: wideCharacters (v :: rest)

/-- The characters of bytes, and the fault at their end if they end within a character. -/
def Encoding.decode (e : Encoding) (bytes : List Nat) : List Char × Option FaultKind :=
  match e with
  | narrow =>
    let (characters, isCut) := narrowCharacters bytes
    (characters, if isCut then some .cutCharacter else none)
  | wide isBigEndian =>
    (wideCharacters (wideUnits isBigEndian bytes),
      if bytes.length % 2 = 1 then some .unclosedToken else none)

/-! ## The declared encoding -/

/-- Why a declared encoding is refused. -/
inductive EncodingFault where
  | contrary
  | unknown
  deriving DecidableEq, Repr

/-- What each byte stands for: a part of a character as before, a character with its number below
128, or a character with its number. -/
inductive Charset where
  | unchanged
  | seven
  | eight
  deriving DecidableEq, Repr

def Encoding.declared (e : Encoding) (name : String) : Except EncodingFault Charset :=
  let isNarrow := e = .narrow
  match name.toUpper with
  | "UTF-8" => if isNarrow then .ok .unchanged else .error .contrary
  | "US-ASCII" => if isNarrow then .ok .seven else .error .contrary
  | "ISO-8859-1" => if isNarrow then .ok .eight else .error .contrary
  | "UTF-16" => if isNarrow then .error .contrary else .ok .unchanged
  | "UTF-16BE" => if e = .wide true then .ok .unchanged else .error .contrary
  | "UTF-16LE" => if e = .wide false then .ok .unchanged else .error .contrary
  | _ => .error .unknown

/-- Reads the bytes of characters anew. -/
def Charset.reread (charset : Charset) (s : List Char) : List Char :=
  let bytes := fun (c : Char) => c.toString.toUTF8.toList.map fun b => Char.ofNat b.toNat
  match charset with
  | unchanged => s
  | seven => (s.flatMap bytes).map fun c => if c.toNat < 0x80 then c else noCharacter
  | eight => s.flatMap bytes

/-! ## Reading -/

/-- Why bytes are no document. -/
inductive DocumentError where
  | fault (kind : FaultKind) (place : Text.Position)
  | unknownEncoding (name : String)
  deriving DecidableEq, Repr

/-- The error of a failure in a text; at an end within a character, that is the error. -/
def Failure.error (f : Failure) (text : List Char) (ending : Option FaultKind) : DocumentError :=
  let place := Text.Position.start.after (text.take (text.length - f.rest.length))
  let isAtEnd := f.kind = .unclosedToken ∨ f.kind = .noElement ∧ f.rest = []
  .fault (if isAtEnd then ending.getD f.kind else f.kind) place

/-- Reads a document of which the beginning has been read: the text from there on. -/
def readFrom (beginning text : List Char) (ending : Option FaultKind) :
    Except DocumentError (List Element) :=
  let whole := beginning ++ text
  match readBefore text.length true text, ending with
  | .ok elements, none => .ok elements
  | .ok _, some kind => .error ((Failure.mk kind []).error whole none)
  | .error f, _ => .error (f.error whole ending)

def readDocument (bytes : List Nat) : Except DocumentError (List Element) :=
  let encoding := Encoding.ofBytes bytes
  let (text, ending) := encoding.decode bytes
  let mark := text.takeWhile (· = '\ufeff') |>.take 1
  match scanOuter (text.drop mark.length) with
  | .ok (.declaration items, rest) =>
    let beginning := text.take (text.length - rest.length)
    let failure := fun kind rest => (Failure.mk kind rest).error text ending
    match scanDeclaration items with
    | .error place => .error (failure .wrongDeclaration place)
    | .ok none => readFrom beginning rest ending
    | .ok (some item) =>
      let name := String.ofList item.value
      match encoding.declared name with
      | .ok charset => readFrom beginning (charset.reread rest) ending
      | .error .contrary => .error (failure .contraryEncoding item.valueStart)
      | .error .unknown => .error (.unknownEncoding name)
  | _ => readFrom mark (text.drop mark.length) ending

end WorkbookTools.Markup
