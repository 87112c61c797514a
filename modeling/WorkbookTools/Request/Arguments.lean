import WorkbookTools.Text.Quoted

/-!
# Arguments of calls

A call gives its arguments by name. An argument that the called routine does not know is an error,
and so is the absence of one that it needs. An unknown argument is reported before those that are
missing.
-/

namespace WorkbookTools

/-- Why a call does not fit the routine that it names. -/
inductive ArgumentError where
  /-- The routine has no argument of this name. -/
  | unexpected (routine argument : String)
  /-- These arguments are needed and not given. -/
  | missing (routine : String) (arguments : List String)
  deriving DecidableEq, Repr

/-- The arguments of a routine: those that it needs and those with defaults. -/
structure Signature where
  routine : String
  required : List String
  optional : List String
  deriving DecidableEq, Repr

namespace Signature

/-- Accepts the names of the arguments that a call gives, if they fit. -/
def check (s : Signature) (given : List String) : Except ArgumentError Unit :=
  match given.find? fun name => name ∉ s.required ++ s.optional with
  | some name => .error (.unexpected s.routine name)
  | none =>
    match s.required.filter fun name => name ∉ given with
    | [] => .ok ()
    | names => .error (.missing s.routine names)

end Signature

namespace ArgumentError

/-- Names in quotes, with "and" before the last one and commas between three or more. -/
def namesText : List String → String
  | [] => ""
  | [name] => Text.quoted name
  | [first, last] => Text.quoted first ++ " and " ++ Text.quoted last
  | names => String.intercalate ", " (names.dropLast.map Text.quoted) ++ ", and " ++
      Text.quoted (names.getLast?.getD "")

def message : ArgumentError → String
  | unexpected routine argument =>
    routine ++ "() got an unexpected keyword argument '" ++ argument ++ "'"
  | missing routine names =>
    routine ++ "() missing " ++ toString names.length ++ " required positional argument" ++
      (if names.length = 1 then "" else "s") ++ ": " ++ namesText names

end ArgumentError

end WorkbookTools
