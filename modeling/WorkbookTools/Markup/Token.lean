import WorkbookTools.Markup.Name

/-!
# Tokens of markup

A token is read from the beginning of a text, and what is left of the text is handed on. Reading
stops at a character that cannot stand where it stands, or at the end of the text if the token is
not finished by then. A fault keeps what is left of the text where it lies, which tells its place.
-/

namespace WorkbookTools.Markup

/-- Why a text is no markup. -/
inductive FaultKind where
  /-- A character cannot stand where it stands. -/
  | invalidToken
  /-- The text ends within a token. -/
  | unclosedToken
  /-- The text ends within a character. -/
  | cutCharacter
  /-- Something stands before the root that is not allowed there. -/
  | unexpectedToken
  /-- The text ends before the root does. -/
  | noElement
  /-- A tag closes an element that is not the last one opened. -/
  | mismatchedTag
  | repeatedAttribute
  /-- Something stands after the root that is not allowed there. -/
  | afterRoot
  | parameterReference
  | unknownEntity
  /-- A reference gives the number of a character that markup must not have. -/
  | invalidNumber
  /-- The declaration does not stand at the beginning. -/
  | lateDeclaration
  | wrongDeclaration
  /-- The declaration names an encoding that the text has not. -/
  | contraryEncoding
  | unclosedSection
  | unboundPrefix
  /-- A prefix is bound to nothing. -/
  | emptyBinding
  /-- The prefix of the markup language is bound to something else. -/
  | reservedPrefix
  /-- The prefix of bindings is bound itself. -/
  | reservedBinding
  /-- A name of the markup language itself is bound. -/
  | reservedNamespace
  /-- The public name of a document type has a character that it must not have. -/
  | foreignPublicName
  deriving DecidableEq, Repr

/-- Why no token is read: a fault, with what is left of the text there, or the end of the text. -/
inductive Stop where
  | fault (kind : FaultKind) (rest : List Char)
  | unfinished
  deriving DecidableEq, Repr

/-- The first character cannot stand where it stands. -/
def invalid {α : Type} (rest : List Char) : Except Stop α := .error (.fault .invalidToken rest)

/-- Something else has to follow: the text ends too early or goes on wrongly. -/
def misplaced {α : Type} (rest : List Char) : Except Stop α :=
  if rest = [] then .error .unfinished else invalid rest

/-! ## Names and references -/

/-- A name, which may have a prefix. -/
structure Name where
  qualifier : Option (List Char)
  base : List Char
  deriving DecidableEq, Repr

def Name.written (n : Name) : List Char :=
  match n.qualifier with
  | some q => q ++ ':' :: n.base
  | none => n.base

/-- Reads a name without prefix. -/
def scanWord (s : List Char) : Except Stop (List Char × List Char) :=
  match s with
  | c :: _ => if isNameStart c then .ok (s.span isNameRest) else invalid s
  | [] => .error .unfinished

def scanName (s : List Char) : Except Stop (Name × List Char) := do
  let (first, rest) ← scanWord s
  match rest with
  | ':' :: rest =>
    let (second, rest) ← scanWord rest
    pure (⟨some first, second⟩, rest)
  | _ => pure (⟨none, first⟩, rest)

/-- What a reference stands for: an entity, or the character with a number. -/
inductive Reference where
  | entity (name : List Char)
  | character (number : Nat)
  deriving DecidableEq, Repr

def digitValue (c : Char) : Nat :=
  if c.isDigit then c.toNat - 0x30 else c.toLower.toNat - 0x61 + 10

/-- A digit in base sixteen. -/
def isHexDigit (c : Char) : Bool := c.isDigit || ('a' ≤ c.toLower && c.toLower ≤ 'f')

def scanNumber (base : Nat) (isDigit : Char → Bool) (s : List Char) :
    Except Stop (Reference × List Char) :=
  match s.span isDigit with
  | ([], rest) => misplaced rest
  | (digits, rest) => .ok (.character (digits.foldl (fun n c => base * n + digitValue c) 0), rest)

/-- Reads a reference after the sign that begins it. -/
def scanReference (s : List Char) : Except Stop (Reference × List Char) := do
  let (reference, rest) ←
    match s with
    | '#' :: 'x' :: rest => scanNumber 16 isHexDigit rest
    | '#' :: rest => scanNumber 10 Char.isDigit rest
    | _ => do
      let (name, rest) ← scanWord s
      pure (Reference.entity name, rest)
  match rest with
  | ';' :: rest => pure (reference, rest)
  | _ => misplaced rest

/-- The entities that need no declaration. -/
def entity? (name : List Char) : Option Char :=
  match String.ofList name with
  | "lt" => some '<'
  | "gt" => some '>'
  | "amp" => some '&'
  | "quot" => some '"'
  | "apos" => some '\x27'
  | _ => none

def Reference.char : Reference → Except FaultKind Char
  | entity name => (entity? name).elim (.error .unknownEntity) .ok
  | character n =>
    if n.isValidChar ∧ ¬ isForeign (Char.ofNat n) then .ok (Char.ofNat n)
    else .error .invalidNumber

/-! ## Tags -/

/-- An attribute: its name, the text from the name on, and the text from the value on, which ends
with a quote. -/
structure Attribute where
  name : Name
  start : List Char
  quote : Char
  value : List Char
  deriving DecidableEq, Repr

/-- Reads the value of an attribute up to its quote, and no reference in it wrongly. -/
def skipValue (quote : Char) : List Char → Except Stop (List Char)
  | [] => .error .unfinished
  | c :: rest =>
    if c = quote then .ok rest
    else if c = '<' ∨ isForeign c then invalid (c :: rest)
    else if c = '&' then (scanReference rest).bind fun _ => skipValue quote rest
    else skipValue quote rest

def scanAttribute (s : List Char) : Except Stop (Attribute × List Char) := do
  let (name, rest) ← scanName s
  match rest.dropWhile isBlank with
  | '=' :: rest =>
    match rest.dropWhile isBlank with
    | quote :: value =>
      if quote = '"' ∨ quote = '\x27' then
        let rest ← skipValue quote value
        pure (⟨name, s, quote, value⟩, rest)
      else invalid (quote :: value)
    | [] => .error .unfinished
  | rest => misplaced rest

/-- The attributes of a tag, and whether the tag closes its element too. -/
structure TagEnd where
  attributes : List Attribute
  isClosed : Bool
  deriving DecidableEq, Repr

/-- Reads a tag after its name; the fuel bounds the number of its attributes. -/
def scanTagEnd (fuel : Nat) (s : List Char) : Except Stop (TagEnd × List Char) :=
  match fuel, s with
  | _, '>' :: rest => .ok (⟨[], false⟩, rest)
  | _, '/' :: '>' :: rest => .ok (⟨[], true⟩, rest)
  | _, '/' :: rest => misplaced rest
  | fuel + 1, c :: rest => do
    if !isBlank c then invalid s
    else
      let rest := rest.dropWhile isBlank
      if rest.head?.any isNameStart then
        let (first, rest) ← scanAttribute rest
        let (others, rest) ← scanTagEnd fuel rest
        pure ({ others with attributes := first :: others.attributes }, rest)
      else if rest.head? = some '>' ∨ rest.head? = some '/' then scanTagEnd fuel rest
      else misplaced rest
  | _, rest => misplaced rest

/-- A tag that opens an element. -/
structure Tag where
  name : Name
  attributes : List Attribute
  isClosed : Bool
  deriving DecidableEq, Repr

/-- Reads a tag after its first sign; the fuel bounds the number of its attributes. -/
def scanTag (fuel : Nat) (s : List Char) : Except Stop (Tag × List Char) := do
  let (name, rest) ← scanName s
  let (last, rest) ← scanTagEnd fuel rest
  pure (⟨name, last.attributes, last.isClosed⟩, rest)

/-- Reads a closing tag after its first two signs, and gives the written name. -/
def scanClosingTag (s : List Char) : Except Stop (List Char × List Char) := do
  let (first, rest) ← scanWord s
  let (more, rest) := rest.span fun c => isNameRest c || c = ':'
  let isFollowed := rest.head?.any fun c => isBlank c || c = '>'
  match rest.dropWhile isBlank with
  | '>' :: after => pure (first ++ more, after)
  | after => if isFollowed then misplaced after else misplaced rest

/-! ## Comments, instructions and sections -/

/-- Reads a comment after its beginning. -/
def scanCommentText : List Char → Except Stop (List Char)
  | '-' :: '-' :: '>' :: rest => .ok rest
  | '-' :: '-' :: rest => misplaced rest
  | c :: rest => if isForeign c then invalid (c :: rest) else scanCommentText rest
  | [] => .error .unfinished

/-- Reads a comment after its first three signs. -/
def scanComment : List Char → Except Stop (List Char)
  | '-' :: rest => scanCommentText rest
  | rest => misplaced rest

/-- Reads an instruction after its target. -/
def scanInstructionText : List Char → Except Stop (List Char)
  | '?' :: '>' :: rest => .ok rest
  | c :: rest => if isForeign c then invalid (c :: rest) else scanInstructionText rest
  | [] => .error .unfinished

/-- Reads an instruction after its first two signs. For the declaration of the markup language, the
text after its target is given. -/
def scanInstruction (s : List Char) : Except Stop (Option (List Char) × List Char) := do
  let (target, rest) ← scanWord s
  let isReserved := target.map Char.toLower = "xml".toList
  let declaration := if isReserved then some rest else none
  match rest with
  | [] => .error .unfinished
  | c :: after =>
    if isReserved ∧ target ≠ "xml".toList ∨ (c ≠ '?' ∧ !isBlank c) then invalid rest
    else if c = '?' then
      match after with
      | '>' :: after => pure (declaration, after)
      | _ => misplaced after
    else pure (declaration, ← scanInstructionText after)

/-- The sign of a section of plain text, after the first three signs. -/
def sectionSign : List Char := "CDATA[".toList

def scanSectionSign (s : List Char) : Except Stop (List Char) :=
  if s.length < sectionSign.length then .error .unfinished
  else
    let agreed := ((s.zip sectionSign).takeWhile fun (c, d) => c = d).length
    if agreed = sectionSign.length then .ok (s.drop agreed) else invalid (s.drop agreed)

/-- Reads a section up to its end. At the end of the text, what could be the beginning of the end is
left. -/
def scanSection : List Char → Except Stop (List Char)
  | ']' :: ']' :: '>' :: rest => .ok rest
  | [] => .error (.fault .unclosedSection [])
  | [']'] => .error (.fault .unclosedSection [']'])
  | [']', ']'] => .error (.fault .unclosedSection [']', ']'])
  | ['\r'] => .error (.fault .unclosedSection ['\r'])
  | c :: rest => if isForeign c then invalid (c :: rest) else scanSection rest

end WorkbookTools.Markup
