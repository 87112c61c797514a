import WorkbookTools.Number.AnyScript
import WorkbookTools.Request.Check
import WorkbookTools.Text.Lines

/-!
# The command line

The words of a command line are options, values and other words. A long option may be cut short as
long as one option only begins that way, and its value may follow after an equals sign. A word that
begins with a hyphen is no value, unless it is a negative number or holds a space. After a double
hyphen no word is an option.

All words are sorted into options and others first; then the options are carried out in order, and
the words that are left over are an error.
-/

namespace WorkbookTools.CommandLine

/-- An option. -/
inductive Flag where
  | help
  | root
  | denyGlob
  | logLevel
  | logFile
  | backend
  | onConflict
  | autoFormula
  | transport
  | host
  | port
  deriving DecidableEq, Repr

namespace Flag

def spellings : List (String × Flag) :=
  [("-h", help), ("--help", help), ("--root", root), ("--deny-glob", denyGlob),
   ("--log-level", logLevel), ("--log-file", logFile), ("--backend", backend),
   ("--on-conflict", onConflict), ("--auto-formula", autoFormula), ("--transport", transport),
   ("--host", host), ("--port", port)]

/-- The name of an option in messages: all its spellings. -/
def displayName (f : Flag) : String :=
  String.intercalate "/" ((spellings.filter (·.2 = f)).map (·.1))

/-- The option is followed by a value. -/
def takesValue : Flag → Bool
  | help | autoFormula => false
  | _ => true

def choices? : Flag → Option (List String)
  | backend => some ["auto", "com", "openpyxl"]
  | onConflict => some ["overwrite", "skip", "rename"]
  | transport => some ["stdio", "sse", "streamable-http"]
  | _ => none

end Flag

/-- Why a command line is not accepted. -/
inductive UsageError where
  | ambiguous (word : String) (matching : List String)
  | missingValue (flag : Flag)
  | unexpectedValue (flag : Flag) (value : String)
  | invalidChoice (flag : Flag) (value : String) (choices : List String)
  | invalidInteger (flag : Flag) (value : String)
  | unrecognized (words : List String)
  deriving DecidableEq, Repr

namespace UsageError

/-- An error about one option. -/
def about (f : Flag) (text : String) : String := "argument " ++ f.displayName ++ ": " ++ text

def message : UsageError → String
  | ambiguous word matching =>
    "ambiguous option: " ++ word ++ " could match " ++ String.intercalate ", " matching
  | missingValue f => about f "expected one argument"
  | unexpectedValue f value => about f ("ignored explicit argument " ++ Text.quoted value)
  | invalidChoice f value choices =>
    about f ("invalid choice: " ++ Text.quoted value ++ " (choose from " ++
      String.intercalate ", " (choices.map Text.quoted) ++ ")")
  | invalidInteger f value => about f ("invalid int value: " ++ Text.quoted value)
  | unrecognized words => "unrecognized arguments: " ++ String.intercalate " " words

end UsageError

/-! ## Sorting words -/

/-- What a word is. -/
inductive Word where
  | plain (text : String)
  /-- The double hyphen. -/
  | separator
  /-- An option in the given spelling, with the value that is attached to it. -/
  | option (flag : Flag) (spelling : String) (value : Option String)
  /-- A word that looks like an option and is none. -/
  | unknown (text : String)
  deriving DecidableEq, Repr

/-- Splits a word at its first equals sign. -/
def splitEquals (word : String) : String × Option String :=
  let s := word.toList
  match s.dropWhile (· ≠ '=') with
  | '=' :: value => (String.ofList (s.takeWhile (· ≠ '=')), some (String.ofList value))
  | _ => (word, none)

/-- A negative number: digits, or digits with a point before the last of them. A line feed may
follow. -/
def isNegativeNumber (word : String) : Bool :=
  match word.toList with
  | '-' :: rest =>
    let body := if rest.getLast? = some '\n' then rest.dropLast else rest
    let isDigit := fun c => (Text.digitValue? c).isSome
    let whole := body.takeWhile isDigit
    match body.dropWhile isDigit with
    | [] => whole ≠ []
    | '.' :: fraction => fraction ≠ [] && fraction.all isDigit
    | _ => false
  | _ => false

/-- The options that a word, which is none of the spellings, may stand for. -/
def candidates (word : String) : List Word :=
  match word.toList with
  | '-' :: '-' :: _ =>
    let (start, value) := splitEquals word
    Flag.spellings.filterMap fun (spelling, f) =>
      if start.toList <+: spelling.toList then some (.option f spelling value) else none
  | '-' :: letter :: attached =>
    Flag.spellings.filterMap fun (spelling, f) =>
      if spelling.toList = ['-', letter] then
        some (.option f spelling (some (String.ofList attached)))
      else if word.toList <+: spelling.toList then some (.option f spelling none)
      else none
  | _ => []

def Word.spelling : Word → String
  | plain text | unknown text => text
  | separator => "--"
  | option _ spelling _ => spelling

/-- Sorts a word that begins with a hyphen and is not in full the spelling of an option. -/
def sortHyphenated (word : String) : Except UsageError Word :=
  match candidates word with
  | [w] => .ok w
  | [] =>
    if isNegativeNumber word ∨ ' ' ∈ word.toList then .ok (.plain word) else .ok (.unknown word)
  | several => .error (.ambiguous word (several.map Word.spelling))

def sortWord (word : String) : Except UsageError Word :=
  if word.toList.head? ≠ some '-' ∨ word = "-" then .ok (.plain word)
  else
    match Flag.spellings.lookup word with
    | some f => .ok (.option f word none)
    | none =>
      let (start, value) := splitEquals word
      match value, Flag.spellings.lookup start with
      | some v, some f => .ok (.option f start (some v))
      | _, _ => sortHyphenated word

/-- Sorts words up to a double hyphen, after which all are plain. -/
def sortWords : List String → Except UsageError (List Word)
  | [] => .ok []
  | word :: rest =>
    if word = "--" then .ok (.separator :: rest.map .plain)
    else do
      let w ← sortWord word
      let others ← sortWords rest
      pure (w :: others)

/-! ## Carrying out options -/

/-- The value of an option. -/
inductive OptionValue where
  | text (s : String)
  | integer (n : Int)
  /-- A double hyphen is dropped where a value is read, and leaves a list without values. -/
  | dropped
  deriving DecidableEq, Repr

/-- What the options have set. -/
structure Settings where
  root : Option OptionValue
  denied : List OptionValue
  logLevel : OptionValue
  logFile : Option OptionValue
  backend : OptionValue
  onConflict : OptionValue
  autoFormula : Bool
  transport : OptionValue
  host : OptionValue
  port : OptionValue
  deriving DecidableEq, Repr

/-- What holds without options. -/
def Settings.default : Settings :=
  ⟨none, [], .text "INFO", none, .text "auto", .text "overwrite", false, .text "stdio",
    .text "localhost", .integer 8888⟩

/-- The value that a word stands for after an option. -/
def Flag.read (f : Flag) (word : String) : Except UsageError OptionValue :=
  if word = "--" then .ok .dropped
  else
    match f.choices? with
    | some choices =>
      if word ∈ choices then .ok (.text word) else .error (.invalidChoice f word choices)
    | none =>
      if f ≠ .port then .ok (.text word)
      else
        match (AnyScript.integer word).toOption with
        | some n => .ok (.integer n)
        | none => .error (.invalidInteger f word)

def Settings.assign (s : Settings) (v : OptionValue) : Flag → Settings
  | .root => { s with root := some v }
  | .denyGlob => { s with denied := s.denied ++ [v] }
  | .logLevel => { s with logLevel := v }
  | .logFile => { s with logFile := some v }
  | .backend => { s with backend := v }
  | .onConflict => { s with onConflict := v }
  | .transport => { s with transport := v }
  | .host => { s with host := v }
  | .port => { s with port := v }
  | .help | .autoFormula => s

/-- Sets an option to the value that a word stands for. -/
def Settings.set (s : Settings) (f : Flag) (word : String) : Except UsageError Settings :=
  (f.read word).map fun v => s.assign v f

/-- What a command line asks for. -/
inductive Order where
  | help
  | serve (settings : Settings)
  deriving DecidableEq, Repr

/-- Help is asked for in letters attached to a hyphen: each of them has to be the letter of help. -/
def helpLetters (attached : List Char) : Except UsageError Order :=
  if attached = [] then .error (.unexpectedValue .help "")
  else
    match attached.dropWhile (· = 'h') with
    | [] => .ok .help
    | _ =>
      .error (.unexpectedValue .help (String.ofList (attached.dropWhile (· = 'h'))))

/-- Carries out the options in order; `extras` are the words that are left over so far. -/
def carryOut (s : Settings) (extras : List String) : List Word → Except UsageError Order
  | [] => if extras = [] then .ok (.serve s) else .error (.unrecognized extras)
  | .plain text :: rest => carryOut s (extras ++ [text]) rest
  | .separator :: rest => carryOut s (extras ++ ["--"]) rest
  | .unknown text :: rest => carryOut s (extras ++ [text]) rest
  | .option f spelling (some value) :: rest =>
    if f.takesValue then
      match s.set f value with
      | .ok s => carryOut s extras rest
      | .error e => .error e
    else if spelling = "-h" then helpLetters value.toList
    else .error (.unexpectedValue f value)
  | [.option f _ none] =>
    if f.takesValue then .error (.missingValue f)
    else if f = .help then .ok .help
    else if extras = [] then .ok (.serve { s with autoFormula := true })
    else .error (.unrecognized extras)
  | .option f _ none :: next :: rest =>
    if f.takesValue then
      match next with
      | .plain value =>
        match s.set f value with
        | .ok s => carryOut s extras rest
        | .error e => .error e
      | _ => .error (.missingValue f)
    else if f = .help then .ok .help
    else carryOut { s with autoFormula := true } extras (next :: rest)

def parse (words : List String) : Except UsageError Order := do
  carryOut .default [] (← sortWords words)

/-! ## Texts -/

def programName : String := "excelauto-mcp"

/-- How the program is called. -/
def usage : String :=
"usage: excelauto-mcp [-h] [--root ROOT] [--deny-glob DENY_GLOB]
                     [--log-level LOG_LEVEL] [--log-file LOG_FILE]
                     [--backend \x7bauto,com,openpyxl\x7d]
                     [--on-conflict \x7boverwrite,skip,rename\x7d] [--auto-formula]
                     [--transport \x7bstdio,sse,streamable-http\x7d] [--host HOST]
                     [--port PORT]
"

/-- What the options mean. -/
def helpText : String := usage ++
"
ExcelAuto MCP server.

options:
  -h, --help            show this help message and exit
  --root ROOT           Workspace root.
  --deny-glob DENY_GLOB
                        Glob pattern to deny (can be specified multiple
                        times).
  --log-level LOG_LEVEL
                        Logging level (DEBUG, INFO, WARNING, ERROR).
  --log-file LOG_FILE   Optional log file path.
  --backend \x7bauto,com,openpyxl\x7d
                        Engine for set_cells_by_array (auto/com/openpyxl).
  --on-conflict \x7boverwrite,skip,rename\x7d
                        Conflict policy when creating an existing workbook.
  --auto-formula        Write text starting with '=' as formulas instead of
                        literal text.
  --transport \x7bstdio,sse,streamable-http\x7d
                        MCP transport.
  --host HOST           HTTP bind host.
  --port PORT           HTTP bind port.
"

/-- The report of an error, one line unless a word of the command line holds line ends. -/
def errorReport (e : UsageError) : String := programName ++ ": error: " ++ e.message ++ "\n"

def lastErrorLine (e : UsageError) : String := ((Text.lines (errorReport e)).getLast?).getD ""

end WorkbookTools.CommandLine
