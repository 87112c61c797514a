import WorkbookTools.Archive

/-!
# The directory of an archive

The directory has one entry for each part of the archive: its name, how it is stored, and where its
header stands. Reading the directory reads all entries.
-/

namespace WorkbookTools.Archive

/-- An entry of the directory. The header stands at an offset that may lie before the file. -/
structure DirectoryEntry where
  name : String
  flags : Nat
  method : Nat
  checksum : Nat
  packedSize : Nat
  size : Nat
  header : Int
  deriving DecidableEq, Repr

/-- The entries of an archive, and where their directory starts. -/
structure Directory where
  start : Nat
  entries : List DirectoryEntry
  deriving DecidableEq, Repr

def entrySignature : List Nat := signature 1 2

/-- The length of an entry, without its name, its fields and its comment. -/
def entryLength : Nat := 46

/-- The latest version of the format that is read, in tenths. -/
def latestVersion : Nat := 63

def nameFlag : Nat := 11

/-- Decodes a name according to the flags beside it. -/
def decodeName (flags : Nat) (bytes : List Nat) : Except Text.DecodingError String :=
  if flags.testBit nameFlag then Text.decode bytes else .ok (Text.decodeOlder bytes)

/-- Reads the additional fields of an entry. -/
def readFields (fields : List Nat) : Except ArchiveError Unit :=
  if fields.length < 4 then .ok ()
  else
    let size := numberAt fields 2 2
    if fields.length < size + 4 then .error (.corruptField (numberAt fields 0 2) size)
    else readFields (fields.drop (size + 4))
termination_by fields.length
decreasing_by simp only [List.length_drop]; omega

/-- Reads the entry at the beginning of some bytes; offsets are moved by the given distance. -/
def readEntry (shift : Int) (bytes : List Nat) : Except ArchiveError DirectoryEntry := do
  if bytes.length < entryLength then throw .truncatedDirectory
  unless isSigned bytes 0 entrySignature do throw .unsignedEntry
  let flags := numberAt bytes 8 2
  let nameLength := numberAt bytes 28 2
  let name ← (decodeName flags ((bytes.drop entryLength).take nameLength)).mapError .undecodableName
  let version := numberAt bytes 6 1
  if latestVersion < version then throw (.laterVersion version)
  readFields ((bytes.drop (entryLength + nameLength)).take (numberAt bytes 30 2))
  pure ⟨name, flags, numberAt bytes 10 2, numberAt bytes 16 4, numberAt bytes 20 4,
    numberAt bytes 24 4, numberAt bytes 42 4 + shift⟩

/-- The length of the entry at the beginning of some bytes. -/
def lengthOfEntry (bytes : List Nat) : Nat :=
  entryLength + numberAt bytes 28 2 + numberAt bytes 30 2 + numberAt bytes 32 2

def readEntries (shift : Int) (bytes : List Nat) : Except ArchiveError (List DirectoryEntry) :=
  if _h : bytes = [] then .ok []
  else
    match readEntry shift bytes with
    | .error e => .error e
    | .ok entry => (readEntries shift (bytes.drop (lengthOfEntry bytes))).map (entry :: ·)
termination_by bytes.length
decreasing_by
  have := List.length_pos_iff.2 _h
  simp only [List.length_drop, lengthOfEntry, entryLength]
  omega

def readDirectory (bytes : List Nat) : Except ArchiveError Directory := do
  let some record := endRecord? bytes | throw .notAnArchive
  let extent ← extentAt bytes record
  if extent.stop < extent.size then throw .misplacedDirectory
  let start := extent.stop - extent.size
  let entries ← readEntries ((start : Int) - extent.recorded) ((bytes.drop start).take extent.size)
  pure ⟨start, entries⟩

/-- The name of an entry up to the first character NUL. -/
def DirectoryEntry.shortName (e : DirectoryEntry) : String :=
  String.ofList (e.name.toList.takeWhile (· ≠ '\x00'))

/-- The last entry of a name, and those before it. -/
def Directory.find? (d : Directory) (name : String) :
    Option (List DirectoryEntry × DirectoryEntry) :=
  match d.entries.reverse.dropWhile (·.shortName ≠ name) with
  | [] => none
  | e :: before => some (before, e)

/-- Where the bytes of an entry end at the latest: at the next header, or at the directory. Of two
entries with one header the later one has no room. -/
def Directory.limit (d : Directory) (before : List DirectoryEntry) (e : DirectoryEntry) : Int :=
  if before.any (·.header = e.header) then e.header
  else
    (((d.entries.map (·.header)).filter (e.header < ·)).min?).getD d.start

end WorkbookTools.Archive
