import WorkbookTools.Address
import WorkbookTools.Archive
import WorkbookTools.Fault
import WorkbookTools.Naming
import WorkbookTools.Policy
import WorkbookTools.Request.Arguments
import WorkbookTools.Request.Check
import WorkbookTools.Workbook.Stored

/-!
# Errors

An error is the cause of a failure; `message` is its wording and `category` the class of failures
that it belongs to. Errors of the category of refused values also count as such where only some
failures are handled.
-/

namespace WorkbookTools

/-- Why an engine for editing cells cannot be used. -/
inductive EngineError where
  /-- The file engine does not edit old workbooks. -/
  | fileEngineOnOldWorkbook
  /-- Excel was asked for and is not available. -/
  | excelUnavailable
  /-- Old workbooks need Excel, which is not available. -/
  | oldWorkbookNeedsExcel
  deriving DecidableEq, Repr

/-- Why a workbook file cannot be opened or created. -/
inductive FormatError where
  /-- The suffix is not that of a workbook. -/
  | unsupported (suffix : String)
  /-- Workbooks with this name cannot be created. -/
  | notCreatable (name : String)
  /-- The file engine does not open files with this suffix. -/
  | notOpenable (suffix : String) (path : Path)
  /-- The name begins with dots only, so the reader sees no suffix. -/
  | noReaderSuffix
  /-- Listing the sheets of an old workbook needs Excel. -/
  | needsExcel (suffix reason : String)
  /-- The file is not the archive of a workbook. -/
  | archive (e : ArchiveError)
  /-- The archive holds something that the reader refuses. -/
  | unreadable (fault : ReadFault)
  /-- A part of the archive cannot be read, for a reason that is not given. -/
  | unreadablePart (part : String) (path : Path)
  deriving DecidableEq, Repr

/-- Why an operation fails. -/
inductive Error where
  | columnLabel (e : ColumnLabelError)
  | columnBelowOne
  | rangeBelowOne (firstRow firstColumn lastRow lastColumn : Int)
  | numeral (e : NumeralFault)
  | policy (e : PolicyError)
  | naming (e : NamingError)
  | file (e : FileError)
  | workbookMissing (path : Path)
  | workbookNotFile (path : Path)
  | format (e : FormatError)
  | title (e : TitleError)
  | sheet (e : SheetError)
  | tooManyCells (range : String) (count limit : Nat)
  /-- The rows of a range have more values than a row can hold. -/
  | rowTooWide
  | noValues
  | engine (e : EngineError)
  | noCurrentWorkbook
  | arguments (e : ArgumentError)
  | request (e : RequestError)
  /-- An edit failed; `reason` is the message of the failure. -/
  | edit (index : Nat) (cell reason : String)
  /-- Excel failed while a workbook was open for editing. -/
  | excelEdit (reason : String)
  /-- Excel failed while the sheets of a workbook were listed. -/
  | excelListing (reason : String)
  | fault (f : Fault)
  /-- The server library is not installed. -/
  | serverLibraryMissing
  | unknownLogLevel (name : String)
  /-- No tool of this name is offered. -/
  | unknownTool (name : String)
  deriving DecidableEq, Repr

/-- The classes of failures. -/
inductive ErrorCategory where
  | value
  | runtime
  | missingFile
  | fileExists
  | notDirectory
  | isDirectory
  | system
  | illegalCharacter
  | notAnArchive
  | unreadableFormat
  | laterFormat
  | missingEntry
  | malformed
  | unknownName
  | undecodable
  | endOfFile
  | damagedData
  | damagedDictionary
  | overflow
  | arguments
  | request
  | edit
  /-- A failure from outside keeps its label. -/
  | outside (family : FaultFamily) (label : String)
  deriving DecidableEq, Repr

namespace FileFault

/-- The class of a failed file operation. -/
def category : FileFault → ErrorCategory
  | missing => .missingFile
  | present => .fileExists
  | notDirectory => .notDirectory
  | isDirectory => .isDirectory
  | nameTooLong | loop => .system
  | embeddedNul => .value

end FileFault

namespace NumeralFault

def message : NumeralFault → String
  | tooLong =>
    "Exceeds the limit (" ++ toString IntegerText.maxDigits ++
      " digits) for integer string conversion; " ++
      "use sys.set_int_max_str_digits() to increase the limit"

end NumeralFault

/-- The wording of an error that names numbers, or of the fault that keeps one of them from being
written. -/
def wording (text : Except NumeralFault String) : String :=
  match text with
  | .ok s => s
  | .error fault => fault.message

namespace ColumnLabelError

def message : ColumnLabelError → String
  | malformed label => "Invalid column label: " ++ label
  | outOfRange label => "Column label out of range: " ++ label

end ColumnLabelError

namespace PolicyError

def message : PolicyError → String
  | unresolvable .embeddedNul => "embedded null byte"
  | unresolvable (.linkLoop path) => "Symlink loop from " ++ Text.quoted path.text
  | relative path =>
    "Path must be absolute: " ++ path.text ++
      ". Start the server with --root to allow relative paths."
  | outsideRoot resolved root =>
    "Path is outside root. resolved=" ++ resolved.text ++ ", root=" ++ root.text ++
      ", example_relative='reports/book.xlsx'."
  | denied resolved => "Path is denied by policy: " ++ resolved.text
  | emptyPattern => "empty pattern"

def category : PolicyError → ErrorCategory
  | unresolvable (.linkLoop _) => .runtime
  | _ => .value

end PolicyError

namespace NamingError

def message : NamingError → String
  | exhausted path => "Failed to resolve unique path for " ++ path.text
  | unnamed path => "PosixPath(" ++ Text.quoted path.text ++ ") has an empty name"

def category : NamingError → ErrorCategory
  | exhausted _ => .runtime
  | unnamed _ => .value

end NamingError

namespace Text.DecodingError

def message (e : DecodingError) : String :=
  let place :=
    if e.count = 1 then
      "byte 0x" ++ String.ofList (padded 16 2 e.byte) ++ " in position " ++ toString e.position
    else
      "bytes in position " ++ toString e.position ++ "-" ++ toString (e.position + e.count - 1)
  "'utf-8' codec can't decode " ++ place ++ ": " ++
    match e.fault with
    | .noStart => "invalid start byte"
    | .cut => "unexpected end of data"

end Text.DecodingError

namespace Markup

def FaultKind.message : FaultKind → String
  | invalidToken => "not well-formed (invalid token)"
  | unclosedToken => "unclosed token"
  | cutCharacter => "partial character"
  | unexpectedToken => "syntax error"
  | noElement => "no element found"
  | mismatchedTag => "mismatched tag"
  | repeatedAttribute => "duplicate attribute"
  | afterRoot => "junk after document element"
  | parameterReference => "illegal parameter entity reference"
  | unknownEntity => "undefined entity"
  | invalidNumber => "reference to invalid character number"
  | lateDeclaration => "XML or text declaration not at start of entity"
  | wrongDeclaration => "XML declaration not well-formed"
  | contraryEncoding => "encoding specified in XML declaration is incorrect"
  | unclosedSection => "unclosed CDATA section"
  | unboundPrefix => "unbound prefix"
  | emptyBinding => "must not undeclare prefix"
  | reservedPrefix =>
    "reserved prefix (xml) must not be undeclared or bound to another namespace name"
  | reservedBinding => "reserved prefix (xmlns) must not be declared or undeclared"
  | reservedNamespace => "prefix must not be bound to one of the reserved namespace names"
  | foreignPublicName => "illegal character(s) in public id"

namespace DocumentError

def message : DocumentError → String
  | fault kind place =>
    kind.message ++ ": line " ++ toString place.line ++ ", column " ++ toString place.column
  | unknownEncoding name => "unknown encoding: " ++ name

def category : DocumentError → ErrorCategory
  | fault _ _ => .malformed
  | unknownEncoding _ => .unknownName

end DocumentError

end Markup

namespace ArchiveError

def message : ArchiveError → String
  | notAnArchive => "File is not a zip file"
  | severalDisks => "zipfiles that span multiple disks are not supported"
  | misplacedDirectory => "Bad offset for central directory"
  | truncatedDirectory => "Truncated central directory"
  | unsignedEntry => "Bad magic number for central directory"
  | undecodableName e | undecodableHeader e => e.message
  | laterVersion tenths =>
    "zip file version " ++ toString (tenths / 10) ++ "." ++ toString (tenths % 10)
  | corruptField kind size =>
    "Corrupt extra field " ++ String.ofList (Text.padded 16 4 kind) ++ " (size=" ++
      toString size ++ ")"
  | noPart name =>
    Text.quoted ("There is no item named " ++ Text.quoted name ++ " in the archive")
  | misplacedPart => "[Errno 22] Invalid argument"
  | truncatedHeader => "Truncated file header"
  | unsignedHeader => "Bad magic number for file header"
  | patchedPart => "compressed patched data (flag bit 5)"
  | stronglyEncryptedPart => "strong encryption (flag bit 6)"
  | differentNames name header =>
    "File name in directory " ++ Text.quoted name ++ " and header " ++ Archive.quotedBytes header ++
      " differ."
  | overlappingPart name =>
    "Overlapped entries: " ++ Text.quoted name ++ " (possible zip bomb)"
  | encryptedPart name =>
    "File " ++ Text.quoted name ++ " is encrypted, password required for extraction"
  | unknownMethod => "That compression method is not supported"
  | truncatedPart => ""
  | damagedPart f => "Error -3 while decompressing data: " ++ f.wording
  | foreignData => "Invalid data stream"
  | foreignOptions => "Invalid or unsupported options"
  | damagedDictionary => "Corrupt input data"
  | wrongChecksum name => "Bad CRC-32 for file " ++ Text.quoted name
  | markup e => e.message
  | attributes e => e.message
  | noWorkbook => "File contains no valid workbook part"

def category : ArchiveError → ErrorCategory
  | undecodableName _ | undecodableHeader _ => .undecodable
  | laterVersion _ | patchedPart | stronglyEncryptedPart | unknownMethod => .laterFormat
  | noPart _ => .missingEntry
  | misplacedPart | foreignData | noWorkbook => .system
  | encryptedPart _ => .runtime
  | truncatedPart => .endOfFile
  | damagedPart _ => .damagedData
  | foreignOptions | damagedDictionary => .damagedDictionary
  | markup e => e.category
  | attributes _ => .arguments
  | _ => .notAnArchive

end ArchiveError

namespace NumberFault

/-- The most characters of a quoted text that a message shows. -/
def shownLength : Nat := 200

def message : NumberFault → String
  | notInteger text =>
    "invalid literal for int() with base 10: " ++
      String.ofList ((Text.quoted text).toList.take shownLength)
  | notDecimal text => "could not convert string to float: " ++ Text.quoted text
  | tooManyDigits count =>
    "Exceeds the limit (" ++ toString IntegerText.maxDigits ++
      " digits) for integer string conversion: value has " ++ toString count ++
      " digits; use sys.set_int_max_str_digits() to increase the limit"

end NumberFault

namespace ReadFault

def message : ReadFault → String
  | malformed place => (Markup.DocumentError.fault .invalidToken place).message
  | number fault => fault.message

def category : ReadFault → ErrorCategory
  | malformed _ => .malformed
  | number _ => .value

end ReadFault

namespace FormatError

def message : FormatError → String
  | unsupported suffix =>
    "Unsupported workbook extension: " ++ (if suffix = "" then "<none>" else suffix) ++
      ". Use .xlsx, .xlsm or .xls."
  | notCreatable name => "Only .xlsx/.xlsm workbooks can be created: " ++ name
  | notOpenable suffix path => "openpyxl cannot open " ++ suffix ++ " files: " ++ path.text
  | noReaderSuffix =>
    "openpyxl does not support  file format, please check you can open it with Excel first. " ++
      "Supported formats are: .xlsx,.xlsm,.xltx,.xltm"
  | needsExcel suffix reason =>
    suffix ++ " files require Windows Excel COM (xlwings) in this environment: " ++ reason
  | archive e => e.message
  | unreadable fault => fault.message
  | unreadablePart part path =>
    "Unable to read workbook: could not read " ++ part ++ " from " ++ path.text ++ ".\n" ++
      "This is most probably because the workbook source files contain some invalid XML.\n" ++
      "Please see the exception for more details."

/-- The error of an archive at a path. A header that cannot be decoded is not named. -/
def ofArchive (path : Path) : ArchiveError → FormatError
  | .undecodableHeader _ => .unreadablePart "manifest" path
  | e => .archive e

def category : FormatError → ErrorCategory
  | noReaderSuffix => .unreadableFormat
  | archive e => e.category
  | unreadable fault => fault.category
  | _ => .value

end FormatError

namespace TitleError

def message : TitleError → String
  | empty => "Title must have at least one character"
  | invalidCharacter c => "Invalid character " ++ c.toString ++ " found in sheet title"
  | unknown title available =>
    "Sheet not found: " ++ title ++ ". Available sheets: " ++ String.intercalate ", " available

end TitleError

namespace SheetError

def message : SheetError → String
  | belowOne => "Row or column values must be at least 1"
  | rowOutOfRange row => wording do
    pure ("Row numbers must be between 1 and 1048576. Row number supplied was " ++
      (← IntegerText.write row))
  | illegalCharacter text => text ++ " cannot be used in worksheets."
  | unsavableColumn column => wording do
    pure ("Invalid column index " ++ (← IntegerText.write column))
  | unsavableNumber => "int too large to convert to float"

def category : SheetError → ErrorCategory
  | illegalCharacter _ => .illegalCharacter
  | unsavableNumber => .overflow
  | _ => .value

end SheetError

namespace EngineError

def message : EngineError → String
  | fileEngineOnOldWorkbook => "backend='openpyxl' cannot edit .xls files."
  | excelUnavailable => "backend='com' requires Windows Excel COM availability."
  | oldWorkbookNeedsExcel =>
    ".xls editing requires Windows Excel COM (xlwings) in this environment."

end EngineError

namespace Error

def message : Error → String
  | columnLabel e => e.message
  | columnBelowOne => "Column index must be positive."
  | rangeBelowOne r₁ c₁ r₂ c₂ => wording do
    pure ("Range coordinates must be positive. first=(" ++ (← IntegerText.write r₁) ++ ", " ++
      (← IntegerText.write c₁) ++ "), last=(" ++ (← IntegerText.write r₂) ++ ", " ++
      (← IntegerText.write c₂) ++ ")")
  | numeral e => e.message
  | policy e => e.message
  | naming e => e.message
  | file e => e.message
  | workbookMissing path => "Workbook not found: " ++ path.text
  | workbookNotFile path => "Workbook path is not a file: " ++ path.text
  | format e => e.message
  | title e => e.message
  | sheet e => e.message
  | tooManyCells range count limit => wording do
    pure ("Requested range exceeds max_cells. range=" ++ range ++ ", cells=" ++
      (← IntegerText.write count) ++ ", max_cells=" ++ (← IntegerText.write limit))
  | rowTooWide => "cannot fit 'int' into an index-sized integer"
  | noValues => "values must contain at least one cell."
  | engine e => e.message
  | noCurrentWorkbook =>
    "No Excel file is open. Call open_excel_and_list_sheets or " ++
      "create_xlsx_file_by_absolute_path first."
  | arguments e => e.message
  | request e => e.message
  | edit index cell reason =>
    "Failed to apply instruction #" ++ toString index ++ " to " ++ cell ++ ": " ++ reason
  | excelEdit reason => "COM edit failed: " ++ reason
  | excelListing reason => "COM sheet listing failed: " ++ reason
  | fault f => f.message
  | serverLibraryMissing =>
    "MCP SDK is not installed. Install with \x60pip install excelauto[mcp]\x60."
  | unknownLogLevel name => "Unknown level: " ++ Text.quoted name
  | unknownTool name => Text.quoted name

def category : Error → ErrorCategory
  | policy e => e.category
  | naming e => e.category
  | file e => e.fault.category
  | workbookMissing _ => .missingFile
  | format e => e.category
  | sheet e => e.category
  | arguments _ => .arguments
  | request _ => .request
  | edit .. => .edit
  | rowTooWide => .overflow
  | excelEdit _ | excelListing _ | serverLibraryMissing => .runtime
  | fault f => .outside f.family f.label
  | unknownTool _ => .missingEntry
  | _ => .value

end Error

namespace ErrorCategory

/-- The class of refused values, in the wide sense. -/
def isValue : ErrorCategory → Bool
  | value | undecodable | request | edit => true
  | outside family _ => family = .value
  | _ => false

/-- A refused value, a value of the wrong type or a call with the wrong arguments. -/
def isRefusal (c : ErrorCategory) : Bool :=
  c.isValue || match c with
    | arguments => true
    | outside family _ => family = .type
    | _ => false

end ErrorCategory

end WorkbookTools
