import WorkbookTools.Markup.Element
import WorkbookTools.Markup.Outer
import WorkbookTools.Text.Decoding
import WorkbookTools.Text.Position

/-!
# Documents

A document is a declaration of the markup language, a declaration of the document type, and the root
element; the first two may be absent. Reading a document gives the elements in the order in which
they are opened, or the first fault and its place.
-/

namespace WorkbookTools.Markup

/-! ## The declaration -/

def isDeclarationEnd (s : List Char) : Bool := ['?', '>'] <+: s

/-- An item of the declaration, with the texts from its name and from its value on. -/
structure DeclarationItem where
  name : List Char
  start : List Char
  value : List Char
  valueStart : List Char
  deriving DecidableEq, Repr

def itemName : List Char → List Char × List Char
  | [] => ([], [])
  | c :: rest =>
    if isDeclarationEnd (c :: rest) ∨ c = '=' ∨ isBlank c ∨ 0x80 ≤ c.toNat then ([], c :: rest)
    else
      let (name, rest) := itemName rest
      (c :: name, rest)

def isItemCharacter (c : Char) : Bool := c.isAlphanum || c = '.' || c = '-' || c = '_'

/-- Reads an item, unless the declaration ends; the text where it cannot be read is its fault. -/
def scanItem (s : List Char) : Except (List Char) (Option DeclarationItem × List Char) := do
  if isDeclarationEnd s then return (none, s)
  unless s.head?.any isBlank do throw s
  let start := s.dropWhile isBlank
  if isDeclarationEnd start then return (none, s)
  let (name, rest) := itemName start
  match rest.dropWhile isBlank with
  | '=' :: after =>
    if name = [] then throw rest
    match after.dropWhile isBlank with
    | quote :: valueStart =>
      if quote ≠ '"' ∧ quote ≠ '\x27' then throw (quote :: valueStart)
      let (value, rest) := valueStart.span isItemCharacter
      if rest.head? = some quote then return (some ⟨name, start, value, valueStart⟩, rest.drop 1)
      else throw rest
    | [] => throw []
  | rest => throw rest

/-- Reads the items of a declaration and gives the one of the encoding. -/
def scanDeclaration (s : List Char) : Except (List Char) (Option DeclarationItem) := do
  let (some version, rest) ← scanItem s | throw s
  if version.name ≠ "version".toList then throw version.start
  let (some second, rest) ← scanItem rest | return none
  let isEncoding := second.name = "encoding".toList
  if isEncoding ∧ ¬ second.value.head?.any Char.isAlpha then throw second.valueStart
  let encoding := if isEncoding then some second else none
  let (last, rest) ← if isEncoding then scanItem rest else pure (some second, rest)
  let some standalone := last | return encoding
  if standalone.name ≠ "standalone".toList then throw standalone.start
  unless standalone.value = "yes".toList ∨ standalone.value = "no".toList do
    throw standalone.valueStart
  let rest := rest.dropWhile isBlank
  if isDeclarationEnd rest then return encoding
  throw rest

/-! ## Content and what follows the root -/

/-- Reads what follows the root. -/
def readAfter (fuel : Nat) (s : List Char) : Except Failure Unit :=
  match fuel, s with
  | _, [] => .ok ()
  | 0, _ => .error ⟨.afterRoot, s⟩
  | fuel + 1, s => do
    match ← beginningAt s (scanOuter s) with
    | (.blank, rest) | (.comment, rest) | (.instruction, rest) => readAfter fuel rest
    | _ => throw ⟨.afterRoot, s⟩

/-- An element that is not closed: its written name and the scope of what it holds. -/
structure OpenElement where
  name : List Char
  scope : Scope
  deriving DecidableEq, Repr

/-- Reads what the open elements hold, the innermost of them first, up to the end of the text. -/
def readContent (fuel : Nat) (around : List OpenElement) (s : List Char) :
    Except Failure (List Element) :=
  match fuel, around with
  | _, [] => do
    readAfter s.length s
    pure []
  | 0, _ => .error ⟨.noElement, s⟩
  | fuel + 1, inner :: outer => do
    match s with
    | [] | ['\r'] => throw ⟨.noElement, s⟩
    | '<' :: '/' :: rest =>
      let (name, after) ← beginningAt s (scanClosingTag rest)
      if name ≠ inner.name then throw ⟨.mismatchedTag, rest⟩
      readContent fuel outer after
    | '<' :: '!' :: '-' :: rest => readContent fuel around (← beginningAt s (scanComment rest))
    | '<' :: '!' :: '[' :: rest =>
      let text ← beginningAt s (scanSectionSign rest)
      readContent fuel around (← beginningAt text (scanSection text))
    | '<' :: '!' :: rest => beginningAt s (misplaced rest)
    | '<' :: '?' :: rest =>
      match ← beginningAt s (scanInstruction rest) with
      | (none, after) => readContent fuel around after
      | (some _, _) => throw ⟨.lateDeclaration, s⟩
    | '<' :: rest =>
      let (tag, after) ← beginningAt s (scanTag fuel rest)
      let (element, scope) ← tag.element s around.length inner.scope
      let around := if tag.isClosed then around else ⟨tag.name.written, scope⟩ :: around
      return element :: (← readContent fuel around after)
    | '&' :: rest =>
      let (reference, after) ← beginningAt s (scanReference rest)
      match reference.char with
      | .ok _ => readContent fuel around after
      | .error kind => throw ⟨kind, s⟩
    | ']' :: ']' :: '>' :: rest => throw ⟨.invalidToken, '>' :: rest⟩
    | c :: rest =>
      if isForeign c then throw ⟨.invalidToken, s⟩
      else readContent fuel around rest

/-- Reads the root and what follows it. -/
def readRoot (s : List Char) : Except Failure (List Element) := do
  let (tag, after) ← beginningAt s (scanTag s.length (s.drop 1))
  let (element, scope) ← tag.element s 0 Scope.initial
  let around := if tag.isClosed then [] else [⟨tag.name.written, scope⟩]
  return element :: (← readContent s.length around after)

/-! ## What stands before the root -/

/-- What has been read of the declaration of a document type. -/
inductive TypeState where
  | start
  | named
  | publicName
  | systemName
  | complete
  /-- Between the declarations of its own. -/
  | inside
  /-- Within a declaration of its own. -/
  | declaring
  deriving DecidableEq, Repr

def isPublicCharacter (c : Char) : Bool :=
  c.isAlphanum || c ∈ " \n\r-'()+,./:=?;!*#@$_%".toList

/-- The declaration of a document type after one more token; `none` if that closes it. -/
def TypeState.next (state : TypeState) (token : OuterToken) :
    Except FaultKind (Option TypeState) :=
  match state, token with
  | _, .blank => .ok (some state)
  | .inside, .closingBracket => .ok (some .complete)
  | .inside, .comment | .inside, .instruction | .inside, .parameter => .ok (some .inside)
  | .inside, .opening keyword =>
    if String.ofList keyword ∈ ["ENTITY", "ELEMENT", "ATTLIST", "NOTATION"] then
      .ok (some .declaring)
    else .error .unexpectedToken
  | .declaring, .close => .ok (some .inside)
  | .declaring, .tag | .declaring, .opening _ => .error .unexpectedToken
  | .declaring, _ => .ok (some .declaring)
  | .start, .word _ => .ok (some .named)
  | .named, .word keyword =>
    if keyword = "SYSTEM".toList then .ok (some .systemName)
    else if keyword = "PUBLIC".toList then .ok (some .publicName)
    else .error .unexpectedToken
  | .publicName, .literal text =>
    if text.all isPublicCharacter then .ok (some .systemName) else .error .foreignPublicName
  | .systemName, .literal _ => .ok (some .complete)
  | .named, .bracket | .complete, .bracket => .ok (some .inside)
  | .named, .close | .complete, .close => .ok none
  | _, .parameter => .error .parameterReference
  | _, .declaration _ => .error .lateDeclaration
  | _, _ => .error .unexpectedToken

/-- Reads the declaration of a document type after its keyword. -/
def skipType (fuel : Nat) (state : TypeState) (s : List Char) : Except Failure (List Char) :=
  match fuel, s with
  | fuel + 1, _ :: _ => do
    let (token, rest) ← beginningAt s (scanOuter s)
    match ← (state.next token).mapError (⟨·, s⟩) with
    | some state => skipType fuel state rest
    | none => pure rest
  | _, _ => .error ⟨.noElement, s⟩

/-- Reads a document without the declaration of the markup language. The flag says whether its type
may still be declared. -/
def readBefore (fuel : Nat) (mayDeclare : Bool) (s : List Char) : Except Failure (List Element) :=
  match fuel, s with
  | fuel + 1, _ :: _ => do
    match ← beginningAt s (scanOuter s) with
    | (.blank, rest) | (.comment, rest) | (.instruction, rest) => readBefore fuel mayDeclare rest
    | (.tag, _) => readRoot s
    | (.opening keyword, rest) =>
      if mayDeclare ∧ keyword = "DOCTYPE".toList then
        readBefore fuel false (← skipType rest.length .start rest)
      else throw ⟨.unexpectedToken, s⟩
    | (.parameter, _) => throw ⟨.parameterReference, s⟩
    | (.declaration _, _) => throw ⟨.lateDeclaration, s⟩
    | _ => throw ⟨.unexpectedToken, s⟩
  | _, _ => .error ⟨.noElement, s⟩

end WorkbookTools.Markup
