import WorkbookTools.Path

/-!
# Names of new workbooks

A new workbook may meet a file of the same name. It then replaces the file, is not created, or gets
the first free name among those with a number from 1 to 9999 after the stem. Whether a path exists
is answered by a function that may fail.
-/

namespace WorkbookTools

/-- What to do when the target of a new workbook exists. -/
inductive ConflictPolicy where
  | overwrite
  | skip
  | rename
  deriving DecidableEq, Repr

def ConflictPolicy.name : ConflictPolicy → String
  | overwrite => "overwrite"
  | skip => "skip"
  | rename => "rename"

/-- Why no new name is found. -/
inductive NamingError where
  /-- All candidates exist. -/
  | exhausted (path : Path)
  /-- The path has no name. -/
  | unnamed (path : Path)
  deriving DecidableEq, Repr

/-- Where a new workbook goes. -/
structure Destination where
  path : Path
  warning : Option String
  skipped : Bool
  deriving DecidableEq, Repr

namespace Path

/-- The path with a number after the stem of its name. -/
def numbered (p : Path) (n : Nat) : Path :=
  p.withName (p.stem ++ "_" ++ toString n ++ p.suffix)

end Path

/-- The largest number that is tried. -/
def maxNumber : Nat := 9999

section
variable {ε : Type} (present : Path → Except ε Bool)

/-- The first of the numbers whose name is free. -/
def firstFree (p : Path) : List Nat → Except ε (Option Path)
  | [] => .ok none
  | n :: numbers => do
    if ← present (p.numbered n) then firstFree p numbers else pure (some (p.numbered n))

/-- The path itself, or the first free numbered one. -/
def nextAvailable (fail : NamingError → ε) (p : Path) : Except ε Path := do
  if ← present p then
    if p.parts = [] then throw (fail (.unnamed p))
    match ← firstFree present p (List.range' 1 maxNumber) with
    | some free => pure free
    | none => throw (fail (.exhausted p))
  else pure p

/-- Where a new workbook goes under a conflict policy. -/
def destination (fail : NamingError → ε) (policy : ConflictPolicy) (p : Path) :
    Except ε Destination := do
  if ← present p then
    match policy with
    | .skip => pure ⟨p, some ("Workbook exists; keeping existing file: " ++ p.name), true⟩
    | .rename =>
      let renamed ← nextAvailable present fail p
      pure ⟨renamed, some ("Workbook exists; created as: " ++ renamed.name), false⟩
    | .overwrite => pure ⟨p, some ("Workbook exists; overwriting: " ++ p.name), false⟩
  else pure ⟨p, none, false⟩

end

end WorkbookTools
