import WorkbookTools.Text.Cased
import WorkbookTools.Text.UpperCase

/-!
# Texts that differ in case only

There are two ways to compare texts without regard to case. Two texts are the same in lower case if
their lower-case forms are equal; the form of the capital sigma depends on its neighbours. A search
compares character by character and finds a character wherever one with the same upper-case form
stands, so that it takes the two small sigmas for one letter. The tables hold the exceptions from
upper-case forms, which are those of Unicode 14.
-/

namespace WorkbookTools.Text

/-- Lower-case characters that share their upper-case form with another lower-case character. -/
def sharedForms : List Nat :=
  [0xb5, 0x131, 0x17f, 0x345, 0x3c2, 0x3d0, 0x3d1, 0x3d5, 0x3d6, 0x3f0, 0x3f1, 0x3f5, 0x1c80,
   0x1c81, 0x1c82, 0x1c83, 0x1c84, 0x1c85, 0x1c86, 0x1c87, 0x1c88, 0x1e9b, 0x1fbe, 0x1fd3, 0x1fe3,
   0xfb06]

/-- Upper-case characters that share their lower-case form with the other character. -/
def furtherCapitals : List (Nat × Nat) :=
  [(0x212a, 0x4b), (0x212b, 0xc5), (0x2126, 0x3a9), (0x3f4, 0x398), (0x1e9e, 0xdf)]

/-! ## Lower case -/

/-- A form that two characters have in common just if they have the same lower-case form. -/
def lowerClass (c : Char) : List Char :=
  if c.toNat ∈ sharedForms then [c]
  else
    match furtherCapitals.lookup c.toNat with
    | some n => upperForm (Char.ofNat n)
    | none => upperForm c

/-- The nearest character that is not passed over is a letter that has a case. -/
def meetsCased (s : List Char) : Bool := (s.find? fun c => !isPassedOver c).any isCased

/-- The forms of the characters of a text that follow other ones, given in reverse. A capital sigma
at the end of a word is the final one, and the dotted capital i becomes two characters. -/
def lowerClassesAfter (before : List Char) : List Char → List (List Char)
  | [] => []
  | c :: rest =>
    let classes :=
      if c = 'Σ' then [lowerClass (if meetsCased before ∧ ¬ meetsCased rest then 'ς' else 'σ')]
      else if c = 'İ' then [lowerClass 'i', lowerClass '\u0307']
      else [lowerClass c]
    classes ++ lowerClassesAfter (c :: before) rest

/-- Two texts are the same in lower case. -/
def isSameLower (s t : List Char) : Bool := lowerClassesAfter [] s = lowerClassesAfter [] t

/-! ## Searching -/

/-- A form that two characters have in common just if a search takes them for the same letter. -/
def searchClass (c : Char) : List Char :=
  if c = 'İ' then ['I'] else upperForm (((furtherCapitals.lookup c.toNat).map Char.ofNat).getD c)

/-- A search for one of the texts finds the other. -/
def isSameInSearch (s t : List Char) : Bool := s.map searchClass = t.map searchClass

end WorkbookTools.Text
