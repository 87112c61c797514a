import WorkbookTools.Path
import WorkbookTools.Text.Quoted

/-!
# File systems

A file system maps locations, rows of component names from the root, to directories, files and
symbolic links. `locate` walks along a path the way every file operation does: it follows the links
in the middle, and the one at the end unless a directory is to be created there, at most forty in
all, and fails at the first component that cannot be passed.
-/

namespace WorkbookTools

/-- A place in a file system: the names on the way from the root. -/
abbrev Location := List String

/-- What stands at a location. -/
inductive Entry (α : Type) where
  | directory
  | file (content : α)
  /-- A symbolic link to the path that this text spells. -/
  | link (target : String)
  deriving DecidableEq, Repr

/-- The entries of a file system, whose files hold contents of type `α`. -/
structure FileSystem (α : Type) where
  entries : List (Location × Entry α)
  deriving DecidableEq, Repr

/-- Why a file operation fails. -/
inductive FileFault where
  | missing
  | present
  | notDirectory
  | isDirectory
  | nameTooLong
  | loop
  /-- The path holds the character NUL, so the operation is not even tried. -/
  | embeddedNul
  deriving DecidableEq, Repr

/-- The number of a fault; an operation that was not tried has none. -/
def FileFault.number? : FileFault → Option Nat
  | missing => some 2
  | present => some 17
  | notDirectory => some 20
  | isDirectory => some 21
  | nameTooLong => some 36
  | loop => some 40
  | embeddedNul => none

def FileFault.wording : FileFault → String
  | missing => "No such file or directory"
  | present => "File exists"
  | notDirectory => "Not a directory"
  | isDirectory => "Is a directory"
  | nameTooLong => "File name too long"
  | loop => "Too many levels of symbolic links"
  | embeddedNul => "embedded null byte"

/-- The faults that count as absence when one asks whether a path exists. -/
def FileFault.isAbsence : FileFault → Bool
  | missing | notDirectory | loop | embeddedNul => true
  | _ => false

/-- A file operation that failed at a path. -/
structure FileError where
  fault : FileFault
  path : Path
  deriving DecidableEq, Repr

/-- The number, the wording and the path of a failure; without a number the wording alone. -/
def FileError.message (e : FileError) : String :=
  match e.fault.number? with
  | some number =>
    "[Errno " ++ toString number ++ "] " ++ e.fault.wording ++ ": " ++ Text.quoted e.path.text
  | none => e.fault.wording

namespace FileSystem

variable {α : Type}

/-- The file system that holds the root directory only. -/
def empty : FileSystem α := ⟨[]⟩

/-- Looks a location up in a list of entries. -/
def find (sought : Location) : List (Location × Entry α) → Option (Entry α)
  | [] => none
  | (place, entry) :: rest => if place = sought then some entry else find sought rest

/-- What stands at a location; the root is always a directory. -/
def entryAt (fs : FileSystem α) (place : Location) : Option (Entry α) :=
  if place = [] then some .directory else find place fs.entries

/-- Replaces the entry at a location, or adds one at the end. -/
def put (place : Location) (e : Entry α) : List (Location × Entry α) → List (Location × Entry α)
  | [] => [(place, e)]
  | (other, old) :: rest =>
    if other = place then (place, e) :: rest else (other, old) :: put place e rest

def set (fs : FileSystem α) (place : Location) (e : Entry α) : FileSystem α :=
  ⟨put place e fs.entries⟩

theorem find_put (place other : Location) (e : Entry α) (l : List (Location × Entry α)) :
    find other (put place e l) = if place = other then some e else find other l := by
  induction l with
  | nil => simp [put, find]
  | cons p rest ih =>
    obtain ⟨here, old⟩ := p
    simp only [put]
    split
    · rename_i heq
      subst heq
      simp only [find]
      split <;> rfl
    · rename_i hne
      simp only [find, ih]
      by_cases hh : here = other
      · subst hh
        simp [Ne.symm hne]
      · simp [hh]

/-- Setting an entry changes that location only. -/
@[simp] theorem entryAt_set (fs : FileSystem α) (place other : Location) (e : Entry α)
    (h : other ≠ []) :
    (fs.set place e).entryAt other = if place = other then some e else fs.entryAt other := by
  simp [entryAt, set, h, find_put]

/-! ## Walking along a path -/

/-- The end of a walk. -/
inductive Located (α : Type) where
  /-- The path leads to this entry. -/
  | found (place : Location) (entry : Entry α)
  /-- The directory exists, the last name in it does not. -/
  | absent (place : Location)
  /-- A component cannot be passed. -/
  | failed (fault : FileFault)
  deriving DecidableEq, Repr

def maxNameBytes : Nat := 255

def maxPathBytes : Nat := 4095

/-- The most links that one walk follows. -/
def maxLinks : Nat := 40

/-- Where the target of a link that stands in `place` starts. -/
def linkStart (place : Location) (target : String) : Location :=
  if (Path.ofText target).isAbsolute then [] else place

/-- What a walk is for. -/
inductive Purpose where
  /-- To look at what is there. -/
  | look
  /-- To write a file. A name with a slash after it is refused, because it means a directory. -/
  | write
  /-- To create a directory. A link at the end of the path is not followed. -/
  | create
  deriving DecidableEq, Repr

/-- Walks from a location along steps; `follow` goes on where a link leads. A single dot and the
empty step after a last slash stay where they are, as long as that is a directory. -/
def walk (fs : FileSystem α) (purpose : Purpose) (follow : Location → List String → Located α) :
    Location → List String → Located α
  | place, [] =>
    match fs.entryAt place with
    | some entry => .found place entry
    | none => .failed .missing
  | place, name :: rest =>
    match fs.entryAt place with
    | some .directory =>
      if name = "" ∨ name = "." then fs.walk purpose follow place rest
      else if name = ".." then fs.walk purpose follow place.dropLast rest
      else if purpose = .write ∧ rest = [""] then .failed .isDirectory
      else if maxNameBytes < name.utf8ByteSize then .failed .nameTooLong
      else
        match fs.entryAt (place ++ [name]) with
        | none => if rest = [] then .absent (place ++ [name]) else .failed .missing
        | some (.link target) =>
          if rest = [] ∧ purpose = .create then .found (place ++ [name]) (.link target)
          else follow (linkStart place target) (Path.stepsOf target ++ rest)
        | some _ => fs.walk purpose follow (place ++ [name]) rest
    | _ => .failed .notDirectory

/-- Walks, following at most the given number of links. -/
def walkWithin (fs : FileSystem α) (purpose : Purpose) :
    Nat → Location → List String → Located α
  | 0 => fs.walk purpose fun _ _ => .failed .loop
  | links + 1 => fs.walk purpose (fs.walkWithin purpose links)

def locate (fs : FileSystem α) (purpose : Purpose) (p : Path) : Located α :=
  if '\x00' ∈ p.text.toList then .failed .embeddedNul
  else if maxPathBytes < p.text.utf8ByteSize then .failed .nameTooLong
  else fs.walkWithin purpose maxLinks [] p.parts

/-! ## Operations -/

def lookUp (fs : FileSystem α) (p : Path) : Except FileError (Option (Entry α)) :=
  match fs.locate .look p with
  | .found _ entry => .ok (some entry)
  | .absent _ => .ok none
  | .failed fault => if fault.isAbsence then .ok none else .error ⟨fault, p⟩

/-- The path leads to something. -/
def pathExists (fs : FileSystem α) (p : Path) : Except FileError Bool :=
  (fs.lookUp p).map Option.isSome

def isFile (fs : FileSystem α) (p : Path) : Except FileError Bool :=
  (fs.lookUp p).map fun
    | some (.file _) => true
    | _ => false

def isDirectory (fs : FileSystem α) (p : Path) : Except FileError Bool :=
  (fs.lookUp p).map fun
    | some .directory => true
    | _ => false

def read (fs : FileSystem α) (p : Path) : Except FileError α :=
  match fs.locate .look p with
  | .found _ (.file content) => .ok content
  | .found _ _ => .error ⟨.isDirectory, p⟩
  | .absent _ => .error ⟨.missing, p⟩
  | .failed fault => .error ⟨fault, p⟩

/-- The location of the file that writing to a path changes or creates. -/
def writeTarget (fs : FileSystem α) (p : Path) : Except FileError Location :=
  match fs.locate .write p with
  | .found place (.file _) => .ok place
  | .found _ _ => .error ⟨.isDirectory, p⟩
  | .absent place => .ok place
  | .failed fault => .error ⟨fault, p⟩

/-- Creates one directory. A link at the end of the path is not followed. -/
def makeDirectory (fs : FileSystem α) (p : Path) : Except FileError (FileSystem α) :=
  match fs.locate .create p with
  | .found _ _ => .error ⟨.present, p⟩
  | .absent place => .ok (fs.set place .directory)
  | .failed fault => .error ⟨fault, p⟩

/-- The failure to create a directory does not matter if there is one already. -/
def unlessDirectory (fs : FileSystem α) (e : FileError) : Except FileError Unit :=
  match fs.isDirectory e.path with
  | .ok true => .ok ()
  | .ok false => .error e
  | .error other => .error other

/-- Creates a directory and its missing parents, for the path whose components are given from the
last to the first. What has been created stays, also when a later step fails. -/
def makeDirectories (anchor : Anchor) :
    List String → FileSystem α → Except FileError Unit × FileSystem α
  | reversed, fs =>
    let p : Path := ⟨anchor, reversed.reverse⟩
    match fs.makeDirectory p with
    | .ok made => (.ok (), made)
    | .error ⟨.missing, q⟩ =>
      match reversed with
      | [] => (.error ⟨.missing, q⟩, fs)
      | _ :: parents =>
        match makeDirectories anchor parents fs with
        | (.error e, made) => (.error e, made)
        | (.ok (), made) =>
          match made.makeDirectory p with
          | .ok done => (.ok (), done)
          | .error ⟨.missing, q⟩ => (.error ⟨.missing, q⟩, made)
          | .error e => (made.unlessDirectory e, made)
    | .error e => (fs.unlessDirectory e, fs)

/-- The number of symbolic links. -/
def linkCount (fs : FileSystem α) : Nat :=
  fs.entries.countP fun (_, e) => match e with
    | .link _ => true
    | _ => false

end FileSystem

end WorkbookTools
