import WorkbookTools.Number.Binary64

/-!
# Data of requests

The arguments of a request arrive as plain data: scalars, lists and records.
-/

namespace WorkbookTools

/-- A value of a request before it is checked. -/
inductive Datum where
  | null
  | boolean (b : Bool)
  | integer (n : Int)
  | number (x : Binary64)
  | text (s : String)
  | list (items : List Datum)
  | record (fields : List (String × Datum))

/-- The value of a field; of two fields with one name the last one counts. -/
def Datum.field? (d : Datum) (name : String) : Option Datum :=
  match d with
  | record fields => (fields.reverse.find? (·.1 = name)).map (·.2)
  | _ => none

/-- The names of the fields of a record. -/
def Datum.fieldNames : Datum → List String
  | record fields => fields.map (·.1)
  | _ => []

/-- The value says nothing: it is null, false, zero or empty. -/
def Datum.saysNothing : Datum → Bool
  | null => true
  | boolean b => !b
  | integer n => n = 0
  | number x => x.toInt? = some 0
  | text s => s = ""
  | list items => items.isEmpty
  | record fields => fields.isEmpty

def Datum.isRecord : Datum → Bool
  | record _ => true
  | _ => false

end WorkbookTools
