import Mathlib.Tactic.SplitIfs
import WorkbookTools.FileSystem.Resolve

/-!
# File systems without regard to contents

`mapContents` replaces what stands in the files and keeps every entry where it is. Walking along a
path, resolving it and creating directories make no use of the contents of files, so all of them
commute with the replacement. This is what lets one say that a call does not depend on a file.

Main statements: `locate_mapContents`, `resolve_mapContents`, `makeDirectories_mapContents`.
-/

namespace WorkbookTools

variable {α β : Type}

def Entry.map (f : α → β) : Entry α → Entry β
  | .directory => .directory
  | .file content => .file (f content)
  | .link target => .link target

namespace FileSystem

/-- The file system with other contents of its files, chosen by their locations. -/
def mapContents (g : Location → α → β) (fs : FileSystem α) : FileSystem β :=
  ⟨fs.entries.map fun (place, e) => (place, e.map (g place))⟩

/-- The end of a walk with other contents. -/
def Located.map (g : Location → α → β) : Located α → Located β
  | .found place e => .found place (e.map (g place))
  | .absent place => .absent place
  | .failed fault => .failed fault

variable {g : Location → α → β}

/-! ## Entries -/

theorem find_map_entries (place : Location) (entries : List (Location × Entry α)) :
    find place (entries.map fun (other, e) => (other, e.map (g other))) =
      (find place entries).map (Entry.map (g place)) := by
  induction entries with
  | nil => rfl
  | cons first rest ih =>
    obtain ⟨other, e⟩ := first
    simp only [List.map_cons, find, ih]
    split
    · next h => rw [h, Option.map_some]
    · rfl

@[simp] theorem entryAt_mapContents (fs : FileSystem α) (place : Location) :
    (fs.mapContents g).entryAt place = (fs.entryAt place).map (Entry.map (g place)) := by
  unfold entryAt
  split
  · rfl
  · exact find_map_entries place fs.entries

theorem put_map_entries (place : Location) (e : Entry α)
    (entries : List (Location × Entry α)) :
    put place (e.map (g place)) (entries.map fun (other, e) => (other, e.map (g other))) =
      (put place e entries).map fun (other, e) => (other, e.map (g other)) := by
  induction entries with
  | nil => rfl
  | cons first rest ih =>
    obtain ⟨other, old⟩ := first
    simp only [List.map_cons, put, ih]
    split <;> rfl

theorem set_mapContents (fs : FileSystem α) (place : Location) (e : Entry α) :
    (fs.mapContents g).set place (e.map (g place)) = (fs.set place e).mapContents g := by
  simp only [set, mapContents, put_map_entries]

@[simp] theorem linkCount_mapContents (fs : FileSystem α) :
    (fs.mapContents g).linkCount = fs.linkCount := by
  unfold linkCount mapContents
  rw [List.countP_map]
  congr 1
  funext ⟨place, e⟩
  cases e <;> rfl

/-! ## Walks -/

theorem walk_mapContents (fs : FileSystem α) (purpose : Purpose)
    {follow : Location → List String → Located α}
    {follow' : Location → List String → Located β}
    (hfollow : ∀ place steps, follow' place steps = (follow place steps).map g)
    (place : Location) (steps : List String) :
    (fs.mapContents g).walk purpose follow' place steps =
      (fs.walk purpose follow place steps).map g := by
  induction steps generalizing place with
  | nil =>
    simp only [walk, entryAt_mapContents]
    cases fs.entryAt place <;> rfl
  | cons name rest ih =>
    simp only [walk, entryAt_mapContents, ih, hfollow]
    cases hplace : fs.entryAt place with
    | none => rfl
    | some here =>
      cases here with
      | file content => rfl
      | link target => rfl
      | directory =>
        simp only [Option.map_some, Entry.map]
        cases hnext : fs.entryAt (place ++ [name]) with
        | none =>
          simp only [Option.map_none]
          split_ifs <;> rfl
        | some next =>
          cases next <;> simp only [Option.map_some, Entry.map] <;> split_ifs <;> rfl

theorem walkWithin_mapContents (fs : FileSystem α) (purpose : Purpose) (links : Nat)
    (place : Location) (steps : List String) :
    (fs.mapContents g).walkWithin purpose links place steps =
      (fs.walkWithin purpose links place steps).map g := by
  induction links generalizing place steps with
  | zero =>
    have hloop : ∀ (_ : Location) (_ : List String),
        (.failed .loop : Located β) = (.failed .loop : Located α).map g := fun _ _ => rfl
    exact walk_mapContents fs purpose hloop place steps
  | succ links ih => exact walk_mapContents fs purpose ih place steps

/-- Where a path leads does not depend on contents. -/
@[simp] theorem locate_mapContents (fs : FileSystem α) (purpose : Purpose) (p : Path) :
    (fs.mapContents g).locate purpose p = (fs.locate purpose p).map g := by
  unfold locate
  split
  · rfl
  · split
    · rfl
    · exact walkWithin_mapContents fs purpose maxLinks [] p.parts

/-! ## Operations -/

@[simp] theorem pathExists_mapContents (fs : FileSystem α) (p : Path) :
    (fs.mapContents g).pathExists p = fs.pathExists p := by
  simp only [pathExists, lookUp, locate_mapContents]
  cases fs.locate .look p with
  | found place e => rfl
  | absent place => rfl
  | failed fault =>
    simp only [Located.map]
    split <;> rfl

@[simp] theorem isFile_mapContents (fs : FileSystem α) (p : Path) :
    (fs.mapContents g).isFile p = fs.isFile p := by
  simp only [isFile, lookUp, locate_mapContents]
  cases fs.locate .look p with
  | found place e => cases e <;> rfl
  | absent place => rfl
  | failed fault =>
    simp only [Located.map]
    split <;> rfl

@[simp] theorem isDirectory_mapContents (fs : FileSystem α) (p : Path) :
    (fs.mapContents g).isDirectory p = fs.isDirectory p := by
  simp only [isDirectory, lookUp, locate_mapContents]
  cases fs.locate .look p with
  | found place e => cases e <;> rfl
  | absent place => rfl
  | failed fault =>
    simp only [Located.map]
    split <;> rfl

@[simp] theorem writeTarget_mapContents (fs : FileSystem α) (p : Path) :
    (fs.mapContents g).writeTarget p = fs.writeTarget p := by
  simp only [writeTarget, locate_mapContents]
  cases fs.locate .write p with
  | found place e => cases e <;> rfl
  | absent place => rfl
  | failed fault => rfl

theorem makeDirectory_mapContents (fs : FileSystem α) (p : Path) :
    (fs.mapContents g).makeDirectory p = (fs.makeDirectory p).map (mapContents g) := by
  simp only [makeDirectory, locate_mapContents]
  cases fs.locate .create p with
  | found place e => rfl
  | absent place => exact congrArg Except.ok (set_mapContents fs place .directory)
  | failed fault => rfl

@[simp] theorem unlessDirectory_mapContents (fs : FileSystem α) (e : FileError) :
    (fs.mapContents g).unlessDirectory e = fs.unlessDirectory e := by
  simp only [unlessDirectory, isDirectory_mapContents]

/-- Directories are created in the same places and with the same outcome. -/
theorem makeDirectories_mapContents (anchor : Anchor) (reversed : List String)
    (fs : FileSystem α) :
    makeDirectories anchor reversed (fs.mapContents g) =
      ((makeDirectories anchor reversed fs).1,
        (makeDirectories anchor reversed fs).2.mapContents g) := by
  induction reversed generalizing fs with
  | nil =>
    unfold makeDirectories
    simp only [makeDirectory_mapContents, unlessDirectory_mapContents]
    cases fs.makeDirectory ⟨anchor, [].reverse⟩ with
    | ok made => rfl
    | error e =>
      obtain ⟨fault, q⟩ := e
      cases fault <;> rfl
  | cons name parents ih =>
    unfold makeDirectories
    simp only [makeDirectory_mapContents, unlessDirectory_mapContents, ih]
    cases fs.makeDirectory ⟨anchor, (name :: parents).reverse⟩ with
    | ok made => rfl
    | error e =>
      obtain ⟨fault, q⟩ := e
      cases fault with
      | missing =>
        obtain ⟨outcome, made⟩ := makeDirectories anchor parents fs
        cases outcome with
        | error e => rfl
        | ok _ =>
          simp only [Except.map, makeDirectory_mapContents, unlessDirectory_mapContents]
          cases made.makeDirectory ⟨anchor, (name :: parents).reverse⟩ with
          | ok done => rfl
          | error e =>
            obtain ⟨fault, q⟩ := e
            cases fault <;> rfl
      | _ => rfl

/-! ## Resolution -/

theorem resolveFrom_mapContents (fs : FileSystem α)
    (follow : List Location → Location → List String → Except ResolveError Resolution)
    (active : List Location) (place : Location) (runs : List String) :
    (fs.mapContents g).resolveFrom follow active place runs =
      fs.resolveFrom follow active place runs := by
  induction runs generalizing place with
  | nil => rfl
  | cons run rest ih =>
    simp only [resolveFrom, ih, entryAt_mapContents]
    cases fs.entryAt (place ++ [run]) with
    | none => rfl
    | some e => cases e <;> rfl

@[simp] theorem resolveWithin_mapContents (fs : FileSystem α) (depth : Nat) :
    (fs.mapContents g).resolveWithin depth = fs.resolveWithin depth := by
  induction depth with
  | zero =>
    funext active place runs
    exact resolveFrom_mapContents fs _ active place runs
  | succ depth ih =>
    funext active place runs
    rw [resolveWithin, resolveWithin, ih]
    exact resolveFrom_mapContents fs _ active place runs

/-- What a path resolves to does not depend on contents. -/
@[simp] theorem resolve_mapContents (fs : FileSystem α) (p : Path) :
    (fs.mapContents g).resolve p = fs.resolve p := by
  have hloop : ∀ q, (fs.mapContents g).checkLoop q = fs.checkLoop q := by
    intro q
    unfold checkLoop
    rw [locate_mapContents]
    cases fs.locate .look q with
    | found place e => rfl
    | absent place => rfl
    | failed fault => cases fault <;> rfl
  simp only [resolve, linkCount_mapContents, resolveWithin_mapContents, hloop]

end FileSystem

end WorkbookTools
