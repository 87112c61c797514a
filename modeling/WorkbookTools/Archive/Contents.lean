import WorkbookTools.Archive.Part

/-!
# The table of contents of an archive

The table of contents says of what kind the parts of an archive are: some by the endings of their
names, others one by one. By their kinds the part with the shared texts and the part with the list
of sheets are found.

A file that holds a text can pass as an archive, if its characters spell the records of one. What it
lacks to be a workbook shows while these parts are read.
-/

namespace WorkbookTools.Archive

def contentsName : String := "[Content_Types].xml"

/-- A table of contents: the kinds that go with endings of names, and the names of parts with their
kinds. -/
structure Contents where
  defaults : List String
  parts : List (String × String)
  deriving DecidableEq, Repr

/-- Words that an attribute is not called by; it gets an underscore in front. -/
def reservedWords : List String :=
  ["False", "None", "True", "and", "as", "assert", "async", "await", "break", "class", "continue",
   "def", "del", "elif", "else", "except", "finally", "for", "from", "global", "if", "import", "in",
   "is", "lambda", "nonlocal", "not", "or", "pass", "raise", "return", "try", "while", "with",
   "yield"]

/-- The names of the attributes of an element. Those that are changed, by an underscore for a hyphen
or in front of them, come last. -/
def attributeNames (e : Markup.Element) : List String :=
  let isChanged := fun (name : String) => name ∈ reservedWords || name.toList.contains '-'
  let changed := fun (name : String) =>
    if name ∈ reservedWords then "_" ++ name
    else String.ofList (name.toList.map fun c => if c = '-' then '_' else c)
  let names := e.attributes.map (·.1)
  names.filter (!isChanged ·) ++ (names.filter isChanged).map changed

def valueIn (e : Markup.Element) (name : String) : String :=
  (e.attributes.lookup name).getD ""

/-- Accepts an element if its attributes are the given ones. -/
def checkAttributes (s : Signature) (e : Markup.Element) : Except ArchiveError Unit :=
  (s.check (attributeNames e)).mapError .attributes

/-- The attributes of the root. -/
def contentsSignature : Signature := ⟨"Manifest.__init__", [], ["Default", "Override"]⟩

/-- The attributes of an element for an ending. -/
def defaultSignature : Signature := ⟨"FileExtension.__init__", ["Extension", "ContentType"], []⟩

/-- The attributes of an element for a part. -/
def partSignature : Signature := ⟨"Override.__init__", ["PartName", "ContentType"], []⟩

/-- Adds what an element within the root says. -/
def Contents.add (c : Contents) (e : Markup.Element) : Except ArchiveError Contents := do
  if e.depth ≠ 1 then pure c
  else if e.name = "Default" then
    checkAttributes defaultSignature e
    pure { c with defaults := c.defaults ++ [valueIn e "ContentType"] }
  else if e.name = "Override" then
    checkAttributes partSignature e
    pure { c with parts := c.parts ++ [(valueIn e "PartName", valueIn e "ContentType")] }
  else pure c

def Contents.ofElements (elements : List Markup.Element) : Except ArchiveError Contents := do
  let contents ← elements.foldlM Contents.add ⟨[], []⟩
  for root in elements.head? do checkAttributes contentsSignature root
  pure contents

/-- The kinds of the list of sheets, in the order in which they are looked for: templates before
workbooks, and those with programs before those without. -/
def workbookKinds : List String :=
  let withPrograms := fun kind => "application/vnd.ms-excel." ++ kind ++ ".macroEnabled.main+xml"
  let plain := fun kind =>
    "application/vnd.openxmlformats-officedocument.spreadsheetml." ++ kind ++ ".main+xml"
  [withPrograms "template", plain "template", withPrograms "sheet", plain "sheet"]

def sharedTextsKind : String :=
  "application/vnd.openxmlformats-officedocument.spreadsheetml.sharedStrings+xml"

/-- The first part of a kind, without the slash that its name begins with. -/
def Contents.part? (c : Contents) (kind : String) : Option String :=
  (c.parts.find? fun (_, k) => k = kind).map fun (name, _) => String.ofList (name.toList.drop 1)

/-- The part with the list of sheets. -/
def Contents.workbookPart? (c : Contents) : Option String :=
  workbookKinds.findSome? c.part? <|>
    if c.defaults.any (· ∈ workbookKinds) then some "xl/workbook.xml" else none

/-- Reads a part that holds markup. -/
def readMarkup (bytes : List Nat) (d : Directory) (name : String) :
    Except ArchiveError (List Markup.Element) := do
  (Markup.readDocument (← readPart bytes d name)).mapError .markup

/-- Looks for the parts that a workbook needs. Nothing beyond them is looked for. -/
def checkParts (bytes : List Nat) : Except ArchiveError Unit := do
  let directory ← readDirectory bytes
  let contents ← Contents.ofElements (← readMarkup bytes directory contentsName)
  for name in contents.part? sharedTextsKind do
    let _ ← readMarkup bytes directory name
  for name in contents.workbookPart? do
    let _ ← readMarkup bytes directory name

/-- Why a file with the given bytes is no workbook. -/
def failure (bytes : List Nat) : ArchiveError :=
  match checkParts bytes with
  | .ok () => .noWorkbook
  | .error e => e

/-! ## Texts after an archive -/

/-- Bytes that stand for an archive, of which only the record at its end matters here. -/
def standIn : List Nat :=
  List.replicate 4700 0 ++ endSignature ++ List.replicate (endLength - 4) 0

/-- Why an archive with a text after it cannot be opened. Unless the text spells a record of its own
or is too long, the archive is found before it. -/
def extendedFailure? (added : String) : Option ArchiveError :=
  if added = "" then none
  else
    let bytes := standIn ++ bytesOf added
    if endRecord? bytes = some (standIn.length - endLength) then none else some (failure bytes)

end WorkbookTools.Archive
