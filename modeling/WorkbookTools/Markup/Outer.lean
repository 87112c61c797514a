import WorkbookTools.Markup.Token

/-!
# Tokens around the root

Before the root of a document and after it stand blanks, comments and instructions. All else is
divided into tokens like the declaration of a document type, which alone may hold them.
-/

namespace WorkbookTools.Markup

/-- A token outside the root. -/
inductive OuterToken where
  | blank
  | comment
  | instruction
  /-- The declaration of the markup language, with the text after its target. -/
  | declaration (rest : List Char)
  /-- The beginning of another declaration. -/
  | opening (keyword : List Char)
  /-- The beginning of a tag. -/
  | tag
  | word (name : List Char)
  | literal (text : List Char)
  | bracket
  | closingBracket
  | close
  | parameter
  | other
  deriving DecidableEq, Repr

/-- A token that ends where the text ends or where one of some characters follows. -/
def endingBefore (isFollower : Char → Bool) (token : OuterToken) (rest : List Char) :
    Except Stop (OuterToken × List Char) :=
  if rest.head?.all isFollower then .ok (token, rest) else invalid rest

def scanLiteral (quote : Char) (s : List Char) : Except Stop (OuterToken × List Char) :=
  match s.span fun c => c ≠ quote && !isForeign c with
  | (text, c :: rest) =>
    if c = quote then
      endingBefore (fun c => isBlank c || c ∈ ['>', '%', '[']) (.literal text) rest
    else invalid (c :: rest)
  | (_, []) => .error .unfinished

/-- Reads a word. A sign of repetition may follow if the word is a name with at most one prefix. -/
def scanOuterWord (s : List Char) : Except Stop (OuterToken × List Char) :=
  let (word, rest) := s.span fun c => isNameRest c || c = ':'
  let colons := word.count ':'
  let isName := word.head?.any isNameStart && colons ≤ 1
  let isCut := word.getLast? = some ':'
  if isName ∧ isCut ∧ rest = [] then .error .unfinished
  else if isName ∧ ¬ isCut then
    if rest.head?.any (· ∈ ['+', '*', '?']) then .ok (.other, rest.drop 1)
    else endingBefore (fun c => isBlank c || c ∈ ['>', ')', ',', '|', '[', '%']) (.word word) rest
  else endingBefore (fun c => isBlank c || c ∈ ['>', ')', ',', '|', '[', '%']) .other rest

/-- Reads the beginning of a declaration after its first two signs. -/
def scanOpening (s : List Char) : Except Stop (OuterToken × List Char) :=
  let (keyword, rest) := s.span fun c => c.isAlpha || c = '_'
  match s, rest with
  | '-' :: after, _ => (scanComment after).map (.comment, ·)
  | '[' :: after, _ => .ok (.other, after)
  | _, ['%'] => .error .unfinished
  | _, '%' :: c :: _ =>
    if keyword = [] ∨ isBlank c ∨ c = '%' then invalid rest else .ok (.opening keyword, rest)
  | _, c :: _ => if keyword ≠ [] ∧ isBlank c then .ok (.opening keyword, rest) else invalid rest
  | _, [] => .error .unfinished

/-- Reads a token that begins with the sign of a tag. -/
def scanMarked (s : List Char) : Except Stop (OuterToken × List Char) :=
  match s with
  | '!' :: rest => scanOpening rest
  | '?' :: rest => do
    match ← scanInstruction rest with
    | (none, rest) => pure (.instruction, rest)
    | (some declaration, rest) => pure (.declaration declaration, rest)
  | c :: _ => if isNameStart c ∨ 0x80 ≤ c.toNat then .ok (.tag, s) else invalid s
  | [] => .error .unfinished

/-- Reads a reference to a parameter after its sign, which may also stand alone. -/
def scanParameter (s : List Char) : Except Stop (OuterToken × List Char) := do
  if s.head?.any fun c => isBlank c || c = '%' then pure (.other, s)
  else
    let (_, rest) ← scanWord s
    match rest with
    | ';' :: rest => pure (.parameter, rest)
    | _ => misplaced rest

/-- Reads a token outside the root. -/
def scanOuter (s : List Char) : Except Stop (OuterToken × List Char) :=
  match s with
  | [] => .error .unfinished
  | '<' :: rest => scanMarked rest
  | '>' :: rest => .ok (.close, rest)
  | '[' :: rest => .ok (.bracket, rest)
  | ']' :: ']' :: '>' :: rest => .ok (.other, rest)
  | [']', ']'] => .error .unfinished
  | ']' :: rest => .ok (.closingBracket, rest)
  | ')' :: rest =>
    endingBefore (fun c => isBlank c || c ∈ ['*', '+', '?', '>', ',', '|', ')']) .other rest
  | '%' :: rest => scanParameter rest
  | '#' :: rest => do
    let (_, rest) ← scanWord rest
    endingBefore (fun c => isBlank c || c ∈ [')', '>', '%', '|']) .other rest
  | c :: rest =>
    if isBlank c then .ok (.blank, rest.dropWhile isBlank)
    else if c ∈ [',', '(', '|'] then .ok (.other, rest)
    else if c = '"' ∨ c = '\x27' then scanLiteral c rest
    else if isNameRest c ∨ c = ':' then scanOuterWord s
    else invalid s

end WorkbookTools.Markup
