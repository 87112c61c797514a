/-!
# Failures from outside

Excel and the other programs that the tools call fail in their own ways. Of such a failure the tools
know its label, its message and the family that decides how it is handled.
-/

namespace WorkbookTools

/-- How a failure is handled. -/
inductive FaultFamily where
  /-- A value was refused. -/
  | value
  /-- A value had the wrong type. -/
  | type
  /-- A library is not installed. -/
  | missingLibrary
  | other
  deriving DecidableEq, Repr

/-- A failure that comes from outside. -/
structure Fault where
  family : FaultFamily
  label : String
  message : String
  deriving DecidableEq, Repr

end WorkbookTools
