import WorkbookTools.Archive.Directory

/-!
# Parts of an archive

A part is found through the directory. Its header has to say the same as the directory, and its
bytes must not run into what follows; then they are read, unpacked and compared with their checksum.
-/

namespace WorkbookTools.Archive

def headerSignature : List Nat := signature 3 4

/-- The length of a header, without its name and its fields. -/
def headerLength : Nat := 30

def encryptionFlag : Nat := 0

def patchFlag : Nat := 5

def strongEncryptionFlag : Nat := 6

/-- How the bytes of a part are packed. -/
inductive Packing where
  | stored
  | deflated
  | blockSorted
  | dictionary
  deriving DecidableEq, Repr

def Packing.ofNumber? : Nat → Option Packing
  | 0 => some stored
  | 8 => some deflated
  | 12 => some blockSorted
  | 14 => some dictionary
  | _ => none

def isBlockSorted (bytes : List Nat) : Bool :=
  let start := ("BZh".toList ++ "1AY&SY".toList).map Char.toNat
  let level := bytes.getD 3 0x39
  (bytes.take 3 ++ bytes.drop 4).take start.length <+: start && 0x31 ≤ level && level ≤ 0x39

/-- The length of the version and the length of the options, which stand before the options. -/
def optionsOffset : Nat := 4

/-- The options of data packed with a dictionary: five bytes, of which the first one holds three
numbers, of bits that are looked at. -/
def areOptions (options : List Nat) : Bool :=
  match options with
  | [first, _, _, _, _] => first < 9 * 5 * 5 && first % 9 + first / 9 % 5 ≤ 4
  | _ => false

/-- Why data packed with a dictionary are refused at their beginning. Data without anything after
the options are accepted whatever these are. -/
def dictionaryFault? (bytes : List Nat) : Option ArchiveError :=
  let options := (bytes.drop optionsOffset).take (numberAt bytes 2 2)
  match bytes.drop (optionsOffset + numberAt bytes 2 2) with
  | [] => none
  | first :: _ =>
    if !areOptions options then some .foreignOptions
    else if first ≠ 0 then some .damagedDictionary
    else none

/-- Unpacks bytes; the flag says whether they are known to be complete. Of the packings that no
workbook uses only the beginning is looked at. -/
def unpack (packing : Packing) (bytes : List Nat) : Except ArchiveError (List Nat × Bool) :=
  match packing with
  | .stored => .ok (bytes, false)
  | .deflated => (inflate bytes).mapError .damagedPart
  | .blockSorted => if isBlockSorted bytes then .ok ([], false) else .error .foreignData
  | .dictionary => (dictionaryFault? bytes).elim (.ok ([], false)) .error

/-- The bytes of a part of the given name that begin at an offset. -/
def readData (name : String) (bytes : List Nat) (e : DirectoryEntry) (offset : Nat) :
    Except ArchiveError (List Nat) := do
  let some packing := Packing.ofNumber? e.method | throw .unknownMethod
  let packed := (bytes.drop offset).take e.packedSize
  if packed = [] ∧ e.packedSize ≠ 0 then throw .truncatedPart
  let (data, complete) ← if packed = [] then pure ([], false) else unpack packing packed
  if packed.length < e.packedSize ∧ data.length < e.size ∧ ¬ complete then throw .truncatedPart
  let content := data.take e.size
  if checksum content ≠ e.checksum then throw (.wrongChecksum name)
  pure content

def readPart (bytes : List Nat) (d : Directory) (name : String) :
    Except ArchiveError (List Nat) := do
  let some (before, e) := d.find? name | throw (.noPart name)
  if e.header < 0 then throw .misplacedPart
  let header := bytes.drop e.header.toNat
  if header.length < headerLength then throw .truncatedHeader
  unless isSigned header 0 headerSignature do throw .unsignedHeader
  let headerName := (header.drop headerLength).take (numberAt header 26 2)
  let fields := (header.drop (headerLength + headerName.length)).take (numberAt header 28 2)
  if e.flags.testBit patchFlag then throw .patchedPart
  if e.flags.testBit strongEncryptionFlag then throw .stronglyEncryptedPart
  let decoded ← (decodeName (numberAt header 6 2) headerName).mapError .undecodableHeader
  if decoded ≠ e.name then throw (.differentNames e.name headerName)
  let offset := e.header.toNat + headerLength + headerName.length + fields.length
  if d.limit before e < (offset + e.packedSize : Nat) then throw (.overlappingPart e.name)
  if e.flags.testBit encryptionFlag then throw (.encryptedPart name)
  readData name bytes e offset

end WorkbookTools.Archive
