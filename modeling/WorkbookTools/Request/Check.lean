import WorkbookTools.Number.IntegerText
import WorkbookTools.Path
import WorkbookTools.Request.Datum
import WorkbookTools.Text.Quoted

/-!
# Checks of request data

A check turns a value into a typed one or names what is wrong with it and where. All fields of a
request are checked, and the findings are reported in the order of the fields.
-/

namespace WorkbookTools

/-- What is wrong with a value. -/
inductive Finding where
  | missing
  | notInteger
  | notIntegerText
  | integerTooLong
  | fractional
  | notFinite
  | below (least : Int)
  | above (greatest : Int)
  | notText
  | textTooShort (least : Nat)
  | textTooLong (greatest : Nat)
  | notList
  | emptyList
  | notPath
  | notBoolean
  | notBooleanText
  | notNumber
  | notChoice (choices : List String)
  | notRecord (model : String)
  | notTable
  /-- The fields are valid one by one, but not together. -/
  | inconsistent (message : String)
  deriving DecidableEq, Repr

/-- A finding and the way to the value that it is about. -/
structure Issue where
  place : List String
  finding : Finding
  deriving DecidableEq, Repr

/-- A request that was refused: the name of its model and the issues in order. -/
structure RequestError where
  model : String
  issues : List Issue
  deriving DecidableEq, Repr

namespace Finding

/-- The choices, quoted, with "or" before the last one. -/
def choicesText : List String → String
  | [] => ""
  | [last] => Text.quoted last
  | [c, last] => Text.quoted c ++ " or " ++ Text.quoted last
  | c :: more => Text.quoted c ++ ", " ++ choicesText more

def charactersText (n : Nat) : String :=
  toString n ++ (if n = 1 then " character" else " characters")

def wording : Finding → String
  | missing => "Field required"
  | notInteger => "Input should be a valid integer"
  | notIntegerText => "Input should be a valid integer, unable to parse string as an integer"
  | integerTooLong => "Unable to parse input string as an integer, exceeded maximum size"
  | fractional => "Input should be a valid integer, got a number with a fractional part"
  | notFinite => "Input should be a finite number"
  | below least => "Input should be greater than or equal to " ++ toString least
  | above greatest => "Input should be less than or equal to " ++ toString greatest
  | notText => "Input should be a valid string"
  | textTooShort least => "String should have at least " ++ charactersText least
  | textTooLong greatest => "String should have at most " ++ charactersText greatest
  | notList => "Input should be a valid list"
  | emptyList => "List should have at least 1 item after validation, not 0"
  | notPath => "Input is not a valid path for <class 'pathlib.Path'>"
  | notBoolean => "Input should be a valid boolean"
  | notBooleanText => "Input should be a valid boolean, unable to interpret input"
  | notNumber => "Input should be a valid number"
  | notChoice choices => "Input should be " ++ choicesText choices
  | notRecord model => "Input should be a valid dictionary or instance of " ++ model
  | notTable => "Input should be a valid dictionary"
  | inconsistent message => "Value error, " ++ message

/-- The short name of a finding. -/
def code : Finding → String
  | missing => "missing"
  | notInteger => "int_type"
  | notIntegerText => "int_parsing"
  | integerTooLong => "int_parsing_size"
  | fractional => "int_from_float"
  | notFinite => "finite_number"
  | below _ => "greater_than_equal"
  | above _ => "less_than_equal"
  | notText => "string_type"
  | textTooShort _ => "string_too_short"
  | textTooLong _ => "string_too_long"
  | notList => "list_type"
  | emptyList => "too_short"
  | notPath => "path_type"
  | notBoolean => "bool_type"
  | notBooleanText => "bool_parsing"
  | notNumber => "float_type"
  | notChoice _ => "literal_error"
  | notRecord _ => "model_type"
  | notTable => "dict_type"
  | inconsistent _ => "value_error"

end Finding

/-- The place, the wording and the short name of an issue. -/
def Issue.line (i : Issue) : String :=
  String.intercalate "." i.place ++ ": " ++ i.finding.wording ++ " [" ++ i.finding.code ++ "]"

/-- The model and a line for each issue. -/
def RequestError.message (e : RequestError) : String :=
  e.issues.foldl (fun text i => text ++ "\n" ++ i.line) e.model

/-- A checked value, or the issues that were found. -/
inductive Checked (α : Type) where
  | valid (a : α)
  | invalid (issues : List Issue)

namespace Checked

variable {α β : Type}

/-- Applies a checked function to a checked value, collecting the issues of both. -/
def apply (f : Checked (α → β)) (x : Unit → Checked α) : Checked β :=
  match f, x () with
  | valid f, valid a => valid (f a)
  | valid _, invalid issues => invalid issues
  | invalid issues, valid _ => invalid issues
  | invalid issues, invalid more => invalid (issues ++ more)

instance : Applicative Checked where
  pure := valid
  seq := apply

/-- Goes on with a further check once the first one has passed. -/
def andThen (x : Checked α) (f : α → Checked β) : Checked β :=
  match x with
  | valid a => f a
  | invalid issues => invalid issues

/-- A value with one thing wrong. -/
def wrong (finding : Finding) : Checked α := invalid [⟨[], finding⟩]

/-- Says where the issues are. -/
def inside (name : String) (x : Checked α) : Checked α :=
  match x with
  | valid a => valid a
  | invalid issues => invalid (issues.map fun i => { i with place := name :: i.place })

/-- Checks the items of a list, the first one being at the given index. -/
def items (check : Datum → Checked α) : Nat → List Datum → Checked (List α)
  | _, [] => valid []
  | index, d :: rest =>
    List.cons <$> inside (toString index) (check d) <*> items check (index + 1) rest

def result (model : String) (x : Checked α) : Except RequestError α :=
  match x with
  | valid a => .ok a
  | invalid issues => .error ⟨model, issues⟩

end Checked

/-! ## Checks of single values -/

namespace Datum

variable {α : Type}

def integerOfText (s : String) : Checked Int :=
  match IntegerText.read s with
  | .value n => .valid n
  | .tooLong => .wrong .integerTooLong
  | .malformed => .wrong .notIntegerText

/-- The bound up to which floating-point numbers are taken as integers. -/
def maxExactFloat : Nat := 9223372036854775808

/-- An integer, a Boolean, an integral floating-point number, or a text. -/
def toInteger : Datum → Checked Int
  | integer n => .valid n
  | boolean b => .valid (if b then 1 else 0)
  | number x =>
    if ¬ x.isFinite then .wrong .notFinite
    else
      match x.toInt? with
      | some n =>
        if n.natAbs < maxExactFloat then .valid n else .wrong .integerTooLong
      | none => .wrong .fractional
  | text s => integerOfText s
  | _ => .wrong .notInteger

/-- An integer of at least `least`. -/
def toIntegerFrom (least : Int) (d : Datum) : Checked { n : Int // least ≤ n } :=
  d.toInteger.andThen fun n => if h : least ≤ n then .valid ⟨n, h⟩ else .wrong (.below least)

/-- A natural number of at least one. -/
def toPositive (d : Datum) : Checked { n : Nat // 1 ≤ n } :=
  (d.toIntegerFrom 1).andThen fun n => .valid ⟨n.val.toNat, by have := n.property; omega⟩

/-- A natural number between two bounds. -/
def toBetween (least greatest : Nat) (d : Datum) :
    Checked { n : Nat // least ≤ n ∧ n ≤ greatest } :=
  d.toInteger.andThen fun n =>
    if h : (least : Int) ≤ n then
      if h' : n ≤ (greatest : Int) then .valid ⟨n.toNat, by omega⟩ else .wrong (.above greatest)
    else .wrong (.below least)

def toText : Datum → Checked String
  | text s => .valid s
  | _ => .wrong .notText

/-- A text with at least and at most the given numbers of characters. -/
def toTextOf (least : Nat) (greatest : Option Nat) (d : Datum) : Checked String :=
  d.toText.andThen fun s =>
    if s.length < least then .wrong (.textTooShort least)
    else
      match greatest with
      | some n => if n < s.length then .wrong (.textTooLong n) else .valid s
      | none => .valid s

/-- A path, given as a text. -/
def toPath : Datum → Checked Path
  | text s => .valid (Path.ofText s)
  | _ => .wrong .notPath

def trueTexts : List String := ["1", "t", "true", "y", "yes", "on"]

def falseTexts : List String := ["0", "f", "false", "n", "no", "off"]

/-- A Boolean that is given as an integer. Other integers are no Booleans in wording as long as they
have 64 bits, and values of the wrong kind beyond. -/
def booleanOfInteger (n : Int) : Checked Bool :=
  if n = 0 then .valid false
  else if n = 1 then .valid true
  else if -(maxExactFloat : Int) ≤ n ∧ n < maxExactFloat then .wrong .notBooleanText
  else .wrong .notBoolean

/-- A Boolean, zero or one, or a text in any case. -/
def toBoolean : Datum → Checked Bool
  | boolean b => .valid b
  | integer n => booleanOfInteger n
  | number x =>
    match x.toInt? with
    | some n => if n.natAbs < maxExactFloat then booleanOfInteger n else .wrong .notBoolean
    | none => .wrong .notBoolean
  | text s =>
    if s.toLower ∈ trueTexts then .valid true
    else if s.toLower ∈ falseTexts then .valid false
    else .wrong .notBooleanText
  | _ => .wrong .notBoolean

def toList (check : Datum → Checked α) : Datum → Checked (List α)
  | list items => Checked.items check 0 items
  | _ => .wrong .notList

def toNonemptyList (check : Datum → Checked α) (d : Datum) : Checked { l : List α // l ≠ [] } :=
  (d.toList check).andThen fun l => if h : l = [] then .wrong .emptyList else .valid ⟨l, h⟩

def toChoice (choices : List (String × α)) (d : Datum) : Checked α :=
  let found := match d with
    | text s => choices.lookup s
    | _ => none
  match found with
  | some a => .valid a
  | none => .wrong (.notChoice (choices.map (·.1)))

/-- Null, or a checked value. -/
def toOptional (check : Datum → Checked α) : Datum → Checked (Option α)
  | null => .valid none
  | d => some <$> check d

/-! ## Fields -/

/-- A field that has to be there. -/
def required (d : Datum) (name : String) (check : Datum → Checked α) : Checked α :=
  Checked.inside name <| match d.field? name with
    | some value => check value
    | none => .wrong .missing

def withDefault (d : Datum) (name : String) (default : α) (check : Datum → Checked α) : Checked α :=
  match d.field? name with
  | some value => Checked.inside name (check value)
  | none => .valid default

/-- A request: its data have to be a record. -/
def request (d : Datum) (model : String) (fields : Datum → Checked α) : Except RequestError α :=
  Checked.result model (if d.isRecord then fields d else .wrong (.notRecord model))

end Datum

end WorkbookTools
