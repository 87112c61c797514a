import WorkbookTools.FileSystem

/-!
# Resolution of paths

A path is resolved by following every link on it; what does not exist is kept as it is written, and
double dots apply to the place reached so far. A link that is met while its own target is being
resolved ends the search: the rest of the path is then kept as written, and if it still leads into
the loop, resolution fails.
-/

namespace WorkbookTools

/-- Why a path cannot be resolved. -/
inductive ResolveError where
  /-- A component holds the character NUL. -/
  | embeddedNul
  /-- The path leads into a loop of links. -/
  | linkLoop (path : Path)
  deriving DecidableEq, Repr

namespace FileSystem

variable {α : Type}

/-- How far links could be followed. -/
inductive Resolution where
  /-- To this place. -/
  | reached (place : Location)
  /-- To a link whose target is already being resolved. The text spells the path to that link and
  what is left after it. -/
  | stuck (text : String)
  deriving DecidableEq, Repr

/-- A text continued by the runs that are left of a path, after a slash unless it ends with one.
Runs that begin with an empty one, as after two slashes, spell a path from the root and take its
place. -/
def continueText (text : String) (runs : List String) : String :=
  let rest := String.intercalate "/" runs
  if rest.toList.head? = some '/' then rest
  else if text.toList.getLast? = some '/' then text ++ rest
  else text ++ "/" ++ rest

/-- Resolves the runs of a path from a location. `follow` resolves the target of a link, given the
links whose targets are being resolved. -/
def resolveFrom (fs : FileSystem α)
    (follow : List Location → Location → List String → Except ResolveError Resolution)
    (active : List Location) : Location → List String → Except ResolveError Resolution
  | place, [] => .ok (.reached place)
  | place, run :: rest =>
    if run = "" ∨ run = "." then fs.resolveFrom follow active place rest
    else if run = ".." then fs.resolveFrom follow active place.dropLast rest
    else if '\x00' ∈ run.toList then .error .embeddedNul
    else
      let next := place ++ [run]
      match fs.entryAt next with
      | some (.link target) =>
        if next ∈ active then .ok (.stuck (continueText (Path.absolute next).text rest))
        else
          match follow (next :: active) (linkStart place target) (Path.runsOf target) with
          | .ok (.reached there) => fs.resolveFrom follow active there rest
          | .ok (.stuck text) => .ok (.stuck (continueText text rest))
          | .error e => .error e
      | _ => fs.resolveFrom follow active next rest

/-- Resolves with targets nested at most to the given depth. The number of links is always enough,
because the nested targets belong to different links. -/
def resolveWithin (fs : FileSystem α) :
    Nat → List Location → Location → List String → Except ResolveError Resolution
  | 0 => fs.resolveFrom fun _ place runs =>
      .ok (.stuck (continueText (Path.absolute place).text runs))
  | depth + 1 => fs.resolveFrom (fs.resolveWithin depth)

/-- Removes double dots together with the component before them. -/
def collapse (place : Location) : List String → Location
  | [] => place
  | name :: rest =>
    if name = ".." then collapse place.dropLast rest else collapse (place ++ [name]) rest

/-- A path without double dots. -/
def collapsed (p : Path) : Path := { p with parts := collapse [] p.parts }

/-- A path on which links could not be followed to the end, unless it still leads into a loop. -/
def checkLoop (fs : FileSystem α) (p : Path) : Except ResolveError Path :=
  match fs.locate .look p with
  | .failed .loop => .error (.linkLoop p)
  | .failed .embeddedNul => .error .embeddedNul
  | _ => .ok p

/-- The absolute path without links and double dots that a path stands for. A path that does not
start at the root is taken from the root. -/
def resolve (fs : FileSystem α) (p : Path) : Except ResolveError Path :=
  match fs.resolveWithin fs.linkCount [] [] p.parts with
  | .error e => .error e
  | .ok (.reached place) => .ok (Path.absolute place)
  | .ok (.stuck text) => fs.checkLoop (collapsed (Path.ofText text))

end FileSystem

end WorkbookTools
