import WorkbookTools.Excel

/-!
# Availability of Excel

Excel is available on Windows, unless it is left out on purpose, if its library is installed and an
instance can be started. The instance that is started for this test is quit at once.
-/

namespace WorkbookTools

/-- Whether Excel can be used, and if not, why. -/
structure Availability where
  available : Bool
  reason : Option String
  deriving DecidableEq, Repr

namespace Excel

/-- Starts an instance and quits it. -/
def probe : ExcelAction Availability := do
  let failure ← try start; pure none catch f => pure (some f)
  match failure with
  | some f => pure ⟨false, some ("Excel application is unavailable: " ++ f.message)⟩
  | none =>
    quit
    pure ⟨true, none⟩

/-- Finds out whether Excel can be used. A library that fails otherwise than by being absent makes
this fail, too. -/
def availability : ExcelAction Availability := do
  let setup := (← get).setup
  if setup.skip = some "1" then pure ⟨false, some "SKIP_COM_TESTS is set."⟩
  else if setup.platform ≠ "win32" then pure ⟨false, some "Excel COM requires Windows."⟩
  else
    match setup.libraryFault with
    | none => probe
    | some f =>
      if f.family = .missingLibrary then
        pure ⟨false, some ("xlwings import failed: " ++ f.message)⟩
      else throw f

end Excel

end WorkbookTools
