import WorkbookTools.Archive.Bytes
import WorkbookTools.Archive.Inflate
import WorkbookTools.Markup.Encoding
import WorkbookTools.Request.Arguments

/-!
# Archives

A workbook is stored as an archive: its entries, a directory of them, and a record at the end that
says how long the directory is. A comment may follow the record, and a longer record with a locator
may stand before it. Opening an archive finds the last record, then the directory before it.
-/

namespace WorkbookTools

/-- Why an archive cannot be opened, or is no workbook. -/
inductive ArchiveError where
  /-- There is no record at the end. -/
  | notAnArchive
  /-- The archive is spread over several disks. -/
  | severalDisks
  /-- The directory would start before the file. -/
  | misplacedDirectory
  /-- The directory ends within an entry. -/
  | truncatedDirectory
  /-- An entry of the directory does not begin with its signature. -/
  | unsignedEntry
  /-- The name of an entry cannot be decoded. -/
  | undecodableName (e : Text.DecodingError)
  /-- An entry needs a later version of the format, given in tenths. -/
  | laterVersion (tenths : Nat)
  /-- An additional field of an entry is longer than all of them. -/
  | corruptField (kind size : Nat)
  /-- The archive has no part of this name. -/
  | noPart (name : String)
  /-- A part would start before the file. -/
  | misplacedPart
  /-- The file ends within the header of a part. -/
  | truncatedHeader
  /-- The header does not begin with its signature. -/
  | unsignedHeader
  /-- A part is given by its differences from another one. -/
  | patchedPart
  | stronglyEncryptedPart
  /-- The name in the header cannot be decoded. -/
  | undecodableHeader (e : Text.DecodingError)
  /-- The names in the directory and in the header differ. -/
  | differentNames (name : String) (header : List Nat)
  /-- A part runs into what follows it. -/
  | overlappingPart (name : String)
  | encryptedPart (name : String)
  | unknownMethod
  /-- The file ends within a part. -/
  | truncatedPart
  /-- The compressed data are not what they should be. -/
  | damagedPart (f : Archive.InflateFault)
  /-- The compressed data do not begin as they should. -/
  | foreignData
  /-- The options of data packed with a dictionary are not as they should be. -/
  | foreignOptions
  /-- Data packed with a dictionary are not what they should be. -/
  | damagedDictionary
  | wrongChecksum (name : String)
  /-- A part is no markup. -/
  | markup (e : Markup.DocumentError)
  /-- An element of the table of contents has not the attributes that it needs. -/
  | attributes (e : ArgumentError)
  /-- The table of contents names no workbook. -/
  | noWorkbook
  deriving DecidableEq, Repr

namespace Archive

def endSignature : List Nat := signature 5 6

def longEndSignature : List Nat := signature 6 6

/-- The locator of the long record. -/
def locatorSignature : List Nat := signature 6 7

/-- The lengths of the records without what follows them. -/
def endLength : Nat := 22

def longEndLength : Nat := 56

def locatorLength : Nat := 20

/-- The most bytes that may follow the record at the end. -/
def maxComment : Nat := 65536

/-- Where the record at the end stands: at the very end if it announces no comment there, or else
where its signature is found last. -/
def endRecord? (bytes : List Nat) : Option Nat :=
  if bytes.length < endLength then none
  else
    let last := bytes.length - endLength
    if isSigned bytes last endSignature ∧ numberAt bytes (last + 20) 2 = 0 then some last
    else
      let first := last - maxComment
      match lastOccurrence endSignature (bytes.drop first) with
      | none => none
      | some offset =>
        if bytes.length < first + offset + endLength then none else some (first + offset)

/-- Where the directory ends, its length, and where it starts according to the record. -/
structure DirectoryExtent where
  stop : Nat
  size : Nat
  recorded : Nat
  deriving DecidableEq, Repr

/-- What the record at an offset says about the directory. The long record counts where there is
one. -/
def extentAt (bytes : List Nat) (record : Nat) : Except ArchiveError DirectoryExtent :=
  let short : DirectoryExtent :=
    ⟨record, numberAt bytes (record + 12) 4, numberAt bytes (record + 16) 4⟩
  let locator := record - locatorLength
  if record < locatorLength ∨ ¬ isSigned bytes locator locatorSignature then .ok short
  else if numberAt bytes (locator + 4) 4 ≠ 0 ∨ 1 < numberAt bytes (locator + 16) 4 then
    .error .severalDisks
  else if locator < longEndLength then .error .notAnArchive
  else
    let long := locator - longEndLength
    if isSigned bytes long longEndSignature then
      .ok ⟨long, numberAt bytes (long + 40) 8, numberAt bytes (long + 48) 8⟩
    else .ok short

end Archive

end WorkbookTools
