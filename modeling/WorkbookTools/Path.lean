/-!
# Paths

A path is an anchor and a row of components. Reading a text drops empty components and single dots
and keeps double dots; exactly two leading slashes are an anchor of their own. The name is the last
component; its suffix starts at its last dot, unless that is its first or last character.
-/

namespace WorkbookTools

/-- Where a path starts. -/
inductive Anchor where
  /-- At the current directory. -/
  | here
  /-- At the root. -/
  | root
  /-- At the root, written with two slashes. -/
  | doubleRoot
  deriving DecidableEq, Repr

/-- The written form of an anchor. -/
def Anchor.text : Anchor → String
  | here => ""
  | root => "/"
  | doubleRoot => "//"

/-- A path by its components, none of which is empty, a single dot or holds a slash. -/
structure Path where
  anchor : Anchor
  parts : List String
  deriving DecidableEq, Repr

namespace Path

/-- The maximal runs between slashes. -/
def splitSlashes : List Char → List (List Char)
  | [] => [[]]
  | c :: rest =>
    if c = '/' then [] :: splitSlashes rest
    else match splitSlashes rest with
      | [] => [[c]]
      | run :: runs => (c :: run) :: runs

def runsOf (text : String) : List String := (splitSlashes text.toList).map String.ofList

/-- The components of a text: the runs between slashes that are neither empty nor a single dot. -/
def componentsOf (text : String) : List String :=
  (runsOf text).filter fun run => run ≠ "" ∧ run ≠ "."

/-- The steps of a walk along a text: the runs between slashes that are not empty, and an empty one
at the end of a text that ends with a slash. -/
def stepsOf (text : String) : List String :=
  let runs := runsOf text
  runs.dropLast.filter (· ≠ "") ++ runs.getLast?.toList

def anchorOf (text : String) : Anchor :=
  match text.toList with
  | '/' :: '/' :: '/' :: _ => .root
  | '/' :: '/' :: _ => .doubleRoot
  | '/' :: _ => .root
  | _ => .here

def ofText (text : String) : Path := ⟨anchorOf text, componentsOf text⟩

/-- The path from the root along the given components. -/
def absolute (parts : List String) : Path := ⟨.root, parts⟩

/-- The written form; the empty path is a single dot. -/
def text (p : Path) : String :=
  if p.anchor = .here ∧ p.parts = [] then "."
  else p.anchor.text ++ String.intercalate "/" p.parts

/-- The path starts at the root. -/
def isAbsolute (p : Path) : Bool := p.anchor ≠ .here

/-- The components, the anchor of an absolute path being the first one. -/
def components (p : Path) : List String :=
  if p.isAbsolute then p.anchor.text :: p.parts else p.parts

/-- The last component; empty for a path without components. -/
def name (p : Path) : String := p.parts.getLast?.getD ""

def parent (p : Path) : Path := { p with parts := p.parts.dropLast }

/-- Continues a path along the components of a relative one. -/
def append (p q : Path) : Path := { p with parts := p.parts ++ q.parts }

/-- Stem and suffix of a name. -/
def splitName (name : String) : String × String :=
  let reversed := name.toList.reverse
  let extension := reversed.takeWhile (· ≠ '.')
  match reversed.dropWhile (· ≠ '.') with
  | '.' :: stem =>
    if stem = [] ∨ extension = [] then (name, "")
    else (String.ofList stem.reverse, String.ofList ('.' :: extension.reverse))
  | _ => (name, "")

/-- The name without its suffix. -/
def stem (p : Path) : String := (splitName p.name).1

def suffix (p : Path) : String := (splitName p.name).2

/-- The suffix in lower case, by which kinds of files are told apart. -/
def extension (p : Path) : String := p.suffix.toLower

/-- Another name in the same directory. -/
def withName (p : Path) (name : String) : Path := { p with parts := p.parts.dropLast ++ [name] }

end Path

end WorkbookTools
