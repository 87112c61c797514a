import WorkbookTools.Text.Caseless
import WorkbookTools.Text.Digit
import WorkbookTools.Workbook.Sheet

/-!
# Workbooks

A workbook is a row of sheets with titles.
-/

namespace WorkbookTools

/-- The sheets of a workbook with their titles, in order. -/
structure Workbook where
  sheets : List (String × Sheet)
  deriving DecidableEq, Repr

/-- Why a title or a sheet is refused. -/
inductive TitleError where
  /-- The title is empty. -/
  | empty
  /-- The title holds a character that titles must not have. -/
  | invalidCharacter (c : Char)
  /-- No sheet has the title. -/
  | unknown (title : String) (available : List String)
  deriving DecidableEq, Repr

namespace Workbook

def titles (w : Workbook) : List String := w.sheets.map (·.1)

/-- The first sheet with the title, in a list of sheets. -/
def findSheet (title : String) : List (String × Sheet) → Option Sheet
  | [] => none
  | (other, s) :: rest => if other = title then some s else findSheet title rest

def sheet (w : Workbook) (title : String) : Except TitleError Sheet :=
  match findSheet title w.sheets with
  | some s => .ok s
  | none => .error (.unknown title w.titles)

/-- Replaces the first sheet with the title, in a list of sheets. -/
def replaceSheet (title : String) (s : Sheet) : List (String × Sheet) → List (String × Sheet)
  | [] => []
  | (other, old) :: rest =>
    if other = title then (other, s) :: rest else (other, old) :: replaceSheet title s rest

/-- The workbook with another sheet under the title. -/
def setSheet (w : Workbook) (title : String) (s : Sheet) : Workbook :=
  ⟨replaceSheet title s w.sheets⟩

/-- The characters that titles must not have. -/
def invalidTitleCharacters : List Char := ['\\', '*', '?', ':', '/', '[', ']']

def initialTitle : String := "Sheet"

/-- A decimal digit of any script. -/
def isDigit (c : Char) : Bool := (Text.digitValue? c).isSome

/-- The digits that a text begins with, as a number. -/
def leadingNumber (s : List Char) : Nat :=
  (s.takeWhile isDigit).foldl (fun n c => n * 10 + (Text.digitValue? c).getD 0) 0

/-- What follows the digits that a text begins with, and a comma after them. -/
def afterNumber (s : List Char) : List Char :=
  match s.dropWhile isDigit with
  | ',' :: rest => rest
  | rest => rest

theorem length_afterNumber_le (s : List Char) : (afterNumber s).length ≤ s.length := by
  have h := (List.dropWhile_sublist isDigit (l := s)).length_le
  unfold afterNumber
  split
  · rename_i rest heq
    rw [heq] at h
    simp only [List.length_cons] at h
    omega
  · exact h

/-- The numbers that follow the occurrences of a title in a text, found without regard to case; an
occurrence without a number counts as zero. -/
def numbersAfter (title : String) (s : List Char) : List Nat :=
  match s with
  | [] => []
  | c :: rest =>
    if Text.isSameInSearch ((c :: rest).take title.length) title.toList then
      let after := rest.drop (title.length - 1)
      leadingNumber after :: numbersAfter title (afterNumber after)
    else numbersAfter title rest
termination_by s.length
decreasing_by
  · have := length_afterNumber_le (rest.drop (title.length - 1))
    simp only [List.length_drop, List.length_cons] at *
    omega
  · simp

/-- The title that a sheet gets beside others. A title that is taken in lower case is numbered: the
number is one more than the largest one that follows it where a search finds it in the row of
titles. A title that the search does not find stays as it is. -/
def freshTitle (taken : List String) (title : String) : String :=
  if taken.any fun other => Text.isSameLower other.toList title.toList then
    match (numbersAfter title (String.intercalate "," taken).toList).max? with
    | some greatest => title ++ toString (greatest + 1)
    | none => title
  else title

/-- The title that the first sheet of a new workbook gets. The sheet bears the initial title before,
so another title must differ from it. -/
def firstTitle (title : String) : Except TitleError String :=
  match title.toList.find? (· ∈ invalidTitleCharacters) with
  | some c => .error (.invalidCharacter c)
  | none =>
    if title = "" then .error .empty
    else if title = initialTitle then .ok title
    else .ok (freshTitle [initialTitle] title)

/-- A workbook with one empty sheet. -/
def create (title : String) : Except TitleError Workbook := do
  pure ⟨[(← firstTitle title, Sheet.empty)]⟩

/-- The workbook with one more sheet, under a title that is not taken. Without a title it gets the
initial one. -/
def addSheet (w : Workbook) (title : String) (s : Sheet) : Workbook :=
  ⟨w.sheets ++ [(freshTitle w.titles (if title = "" then initialTitle else title), s)]⟩

end Workbook

end WorkbookTools
