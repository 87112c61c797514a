import WorkbookTools.FileSystem

/-!
# Steps of a walk

A walk takes its next step in one of few ways: it stays, it rises, it enters a directory or file, it
follows a link, it ends, or it fails. Each way has an equation for the walk, and `walkStep` says that
there is no other one. What holds of all walks is shown along these ways.
-/

namespace WorkbookTools.FileSystem

variable {α : Type} {fs : FileSystem α} {purpose : Purpose} {place : Location} {name target : String}
  {rest : List String} {e : Entry α} {follow : Location → List String → Located α}

/-- The step leads to a place in the directory, whatever stands there. -/
structure StepsInto (fs : FileSystem α) (purpose : Purpose) (place : Location) (name : String)
    (rest : List String) : Prop where
  directory : fs.entryAt place = some .directory
  stirs : ¬ (name = "" ∨ name = ".")
  down : name ≠ ".."
  /-- No slash stands at the end of the path of a file that is to be written. -/
  slash : ¬ (purpose = .write ∧ rest = [""])
  short : ¬ maxNameBytes < name.utf8ByteSize

theorem walk_stays (hplace : fs.entryAt place = some .directory) (hname : name = "" ∨ name = ".") :
    fs.walk purpose follow place (name :: rest) = fs.walk purpose follow place rest := by
  simp only [walk, hplace, if_pos hname]

theorem walk_rises (hplace : fs.entryAt place = some .directory) :
    fs.walk purpose follow place (".." :: rest) = fs.walk purpose follow place.dropLast rest := by
  have hstirs : ¬ (".." = "" ∨ ".." = ".") := by decide
  simp only [walk, hplace, if_neg hstirs, if_pos]

section Into

variable (h : StepsInto fs purpose place name rest)
include h

theorem walk_ends (hrest : rest = []) (hentry : fs.entryAt (place ++ [name]) = none) :
    fs.walk purpose follow place (name :: rest) = .absent (place ++ [name]) := by
  simp only [walk, h.directory, if_neg h.stirs, if_neg h.down, if_neg h.slash, if_neg h.short,
    hentry, if_pos hrest]

theorem walk_misses (hrest : rest ≠ []) (hentry : fs.entryAt (place ++ [name]) = none) :
    fs.walk purpose follow place (name :: rest) = .failed .missing := by
  simp only [walk, h.directory, if_neg h.stirs, if_neg h.down, if_neg h.slash, if_neg h.short,
    hentry, if_neg hrest]

theorem walk_enters (hentry : fs.entryAt (place ++ [name]) = some e)
    (hkind : ∀ target, e ≠ .link target) :
    fs.walk purpose follow place (name :: rest) = fs.walk purpose follow (place ++ [name]) rest := by
  simp only [walk, h.directory, if_neg h.stirs, if_neg h.down, if_neg h.slash, if_neg h.short]
  rw [hentry]
  cases e with
  | link target => exact absurd rfl (hkind target)
  | _ => rfl

theorem walk_follows (hentry : fs.entryAt (place ++ [name]) = some (.link target))
    (hgoes : ¬ (rest = [] ∧ purpose = .create)) :
    fs.walk purpose follow place (name :: rest) =
      follow (linkStart place target) (Path.stepsOf target ++ rest) := by
  simp only [walk, h.directory, if_neg h.stirs, if_neg h.down, if_neg h.slash, if_neg h.short,
    hentry, if_neg hgoes]

theorem walk_stops (hentry : fs.entryAt (place ++ [name]) = some (.link target))
    (hstops : rest = [] ∧ purpose = .create) :
    fs.walk purpose follow place (name :: rest) = .found (place ++ [name]) (.link target) := by
  simp only [walk, h.directory, if_neg h.stirs, if_neg h.down, if_neg h.slash, if_neg h.short,
    hentry, if_pos hstops]

end Into

/-- The ways in which a walk takes its next step. -/
inductive WalkStep (fs : FileSystem α) (purpose : Purpose) (place : Location) (name : String)
    (rest : List String) : Prop
  /-- The fault is one of this step: no fault of the path as a whole. -/
  | fails (fault : FileFault) (loop : fault ≠ .loop) (nul : fault ≠ .embeddedNul)
      (walk_eq : ∀ follow : Location → List String → Located α,
        fs.walk purpose follow place (name :: rest) = .failed fault)
  | stays (directory : fs.entryAt place = some .directory) (name_eq : name = "" ∨ name = ".")
  | rises (directory : fs.entryAt place = some .directory) (name_eq : name = "..")
  | ends (into : StepsInto fs purpose place name rest) (rest_eq : rest = [])
      (entry : fs.entryAt (place ++ [name]) = none)
  | enters (into : StepsInto fs purpose place name rest) (e : Entry α)
      (entry : fs.entryAt (place ++ [name]) = some e) (kind : ∀ target, e ≠ .link target)
  | follows (into : StepsInto fs purpose place name rest) (target : String)
      (entry : fs.entryAt (place ++ [name]) = some (.link target))
      (goes : ¬ (rest = [] ∧ purpose = .create))
  | stops (into : StepsInto fs purpose place name rest) (target : String)
      (entry : fs.entryAt (place ++ [name]) = some (.link target))
      (stops : rest = [] ∧ purpose = .create)

theorem walkStep_of_stepsInto (h : StepsInto fs purpose place name rest) :
    WalkStep fs purpose place name rest := by
  cases hentry : fs.entryAt (place ++ [name]) with
  | none =>
    by_cases hrest : rest = []
    · exact .ends h hrest hentry
    · exact .fails .missing nofun nofun fun follow => walk_misses h hrest hentry
  | some e =>
    cases e with
    | link target =>
      by_cases hstop : rest = [] ∧ purpose = .create
      · exact .stops h target hentry hstop
      · exact .follows h target hentry hstop
    | directory => exact .enters h _ hentry nofun
    | file content => exact .enters h _ hentry nofun

/-- There is no other way. -/
theorem walkStep (fs : FileSystem α) (purpose : Purpose) (place : Location) (name : String)
    (rest : List String) : WalkStep fs purpose place name rest := by
  by_cases hplace : fs.entryAt place = some .directory
  · by_cases hdot : name = "" ∨ name = "."
    · exact .stays hplace hdot
    by_cases hdots : name = ".."
    · exact .rises hplace hdots
    by_cases hslash : purpose = .write ∧ rest = [""]
    · refine .fails .isDirectory nofun nofun fun follow => ?_
      simp only [walk, hplace, if_neg hdot, if_neg hdots, if_pos hslash]
    by_cases hlong : maxNameBytes < name.utf8ByteSize
    · refine .fails .nameTooLong nofun nofun fun follow => ?_
      simp only [walk, hplace, if_neg hdot, if_neg hdots, if_neg hslash, if_pos hlong]
    exact walkStep_of_stepsInto ⟨hplace, hdot, hdots, hslash, hlong⟩
  · refine .fails .notDirectory nofun nofun fun follow => ?_
    unfold walk
    split
    · next hdirectory => exact absurd hdirectory hplace
    · rfl

end WorkbookTools.FileSystem
