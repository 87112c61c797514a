import WorkbookTools.Proofs.FileSystem.Contents
import WorkbookTools.Proofs.FileSystem.Links

/-!
# Walks after an update

A walk ends where it says: at an entry, or where none is. Replacing what stands in a file changes no
walk but for the contents that it finds.

Main statements: `locate_holds`, `locate_set_file`.
-/

namespace WorkbookTools.FileSystem

variable {α : Type} {fs fs' : FileSystem α}

/-! ## What a walk finds -/

/-- The end of a walk says what stands there. -/
def Located.Holds (fs : FileSystem α) : Located α → Prop
  | .found place e => fs.entryAt place = some e
  | .absent place => fs.entryAt place = none
  | .failed _ => True

theorem walk_holds {purpose : Purpose} {follow : Location → List String → Located α}
    (hfollow : ∀ place steps, (follow place steps).Holds fs) (place : Location)
    (steps : List String) : (fs.walk purpose follow place steps).Holds fs := by
  induction steps generalizing place with
  | nil =>
    simp only [walk]
    split
    · next hentry => exact hentry
    · trivial
  | cons name rest ih =>
    cases fs.walkStep purpose place name rest with
    | fails fault _ _ hfails =>
      rw [hfails]
      trivial
    | stays hplace hdot =>
      rw [walk_stays hplace hdot]
      exact ih place
    | rises hplace hdots =>
      subst hdots
      rw [walk_rises hplace]
      exact ih place.dropLast
    | ends hinto hrest hentry =>
      rwa [walk_ends hinto hrest hentry]
    | enters hinto e hentry hkind =>
      rw [walk_enters hinto hentry hkind]
      exact ih (place ++ [name])
    | follows hinto target hentry hgoes =>
      rw [walk_follows hinto hentry hgoes]
      exact hfollow _ _
    | stops hinto target hentry hstops =>
      rwa [walk_stops hinto hentry hstops]

theorem walkWithin_holds (purpose : Purpose) (links : Nat) (place : Location)
    (steps : List String) : (fs.walkWithin purpose links place steps).Holds fs := by
  induction links generalizing place steps with
  | zero =>
    have hloop : ∀ (_ : Location) (_ : List String), (.failed .loop : Located α).Holds fs :=
      fun _ _ => trivial
    exact walk_holds hloop place steps
  | succ links ih => exact walk_holds ih place steps

theorem locate_holds (fs : FileSystem α) (purpose : Purpose) (p : Path) :
    (fs.locate purpose p).Holds fs := by
  unfold locate
  split
  · trivial
  · split
    · trivial
    · exact walkWithin_holds purpose maxLinks [] p.parts

/-- Nothing stands at the place, or a file. -/
def TakesFile (fs : FileSystem α) (place : Location) : Prop :=
  fs.entryAt place = none ∨ ∃ content, fs.entryAt place = some (.file content)

theorem takesFile_of_file {place : Location} {content : α}
    (h : fs.entryAt place = some (.file content)) : TakesFile fs place :=
  .inr ⟨content, h⟩

theorem TakesFile.ne_root {place : Location} (h : TakesFile fs place) : place ≠ [] := by
  rintro rfl
  rcases h with hnone | ⟨content, hfile⟩
  · cases hnone
  · cases hfile

theorem TakesFile.linkAt_eq {place : Location} (h : TakesFile fs place) :
    fs.linkAt place = none := by
  rw [linkAt_eq_bind]
  rcases h with hnone | ⟨content, hfile⟩
  · rw [hnone, Option.bind_none]
  · rw [hfile]
    rfl

theorem TakesFile.not_directory {place : Location} (h : TakesFile fs place) :
    fs.entryAt place ≠ some .directory := by
  intro hdirectory
  rcases h with hnone | ⟨content, hfile⟩
  · rw [hnone] at hdirectory
    cases hdirectory
  · rw [hfile] at hdirectory
    cases hdirectory

/-- Writing to a path concerns the place to which it leads. -/
theorem writeTarget_ok {p : Path} {place : Location} (h : fs.writeTarget p = .ok place) :
    LeadsTo fs p place ∧ TakesFile fs place := by
  have hholds := locate_holds fs .write p
  unfold writeTarget at h
  split at h
  · next content hfound =>
    cases h
    rw [hfound] at hholds
    exact ⟨⟨.write, by simp, by rw [hfound, Located.end?]⟩, .inr ⟨content, hholds⟩⟩
  · cases h
  · next habsent =>
    cases h
    rw [habsent] at hholds
    exact ⟨⟨.write, by simp, by rw [habsent, Located.end?]⟩, .inl hholds⟩
  · cases h

theorem read_ok {p : Path} {content : α} (h : fs.read p = .ok content) :
    ∃ place, LeadsTo fs p place ∧ fs.entryAt place = some (.file content) := by
  have hholds := locate_holds fs .look p
  unfold read at h
  split at h
  · next place found hfound =>
    cases h
    rw [hfound] at hholds
    exact ⟨place, ⟨.look, by simp, by rw [hfound, Located.end?]⟩, hholds⟩
  · cases h
  · cases h
  · cases h

theorem isFile_ok {p : Path} (h : fs.isFile p = .ok true) :
    ∃ place content, LeadsTo fs p place ∧ fs.entryAt place = some (.file content) := by
  have hholds := locate_holds fs .look p
  unfold isFile lookUp at h
  cases hlocate : fs.locate .look p with
  | found place e =>
    rw [hlocate] at h hholds
    cases e with
    | file content =>
      exact ⟨place, content, ⟨.look, by simp, by rw [hlocate, Located.end?]⟩, hholds⟩
    | _ => cases h
  | absent place =>
    rw [hlocate] at h
    cases h
  | failed fault =>
    rw [hlocate] at h
    simp only at h
    split at h <;> cases h

theorem sameLinks_set_file {place : Location} (hold : TakesFile fs place) (content : α) :
    SameLinks fs (fs.set place (.file content)) :=
  sameLinks_set rfl hold.linkAt_eq hold.ne_root

/-- What is read after a file has been written is what was written. -/
theorem read_written {p : Path} {place : Location} {content found : α}
    (hplace : fs.writeTarget p = .ok place)
    (hread : (fs.set place (.file content)).read p = .ok found) : found = content := by
  obtain ⟨hlead, hold⟩ := writeTarget_ok hplace
  obtain ⟨other, hother, hentry⟩ := read_ok hread
  have hlinks := sameLinks_set_file hold content
  obtain rfl : place = other :=
    (hlead.mayLeadTo.of_sameLinks hlinks).unique hother.mayLeadTo
  rw [entryAt_set_self hold.ne_root] at hentry
  cases hentry
  rfl

/-! ## What is added -/

theorem growsTo_set_file {place : Location} (hold : TakesFile fs place) (content : α) :
    GrowsTo fs (fs.set place (.file content)) := by
  refine ⟨sameLinks_set_file hold content, fun other hother => ?_, fun other old hother => ?_⟩
  · have hne : place ≠ other := by
      rintro rfl
      exact hold.not_directory hother
    rw [entryAt_set_of_ne hne, hother]
  · by_cases hsame : place = other
    · subst hsame
      exact ⟨content, entryAt_set_self hold.ne_root _⟩
    · exact ⟨old, by rw [entryAt_set_of_ne hsame, hother]⟩

/-- Every entry of the first file system is in the second one, which at most has more directories
than that. -/
def AddsDirectories (fs fs' : FileSystem α) : Prop :=
  SameLinks fs fs' ∧ ∀ place, fs'.entryAt place = fs.entryAt place ∨
    (fs.entryAt place = none ∧ fs'.entryAt place = some .directory)

namespace AddsDirectories

theorem refl (fs : FileSystem α) : AddsDirectories fs fs :=
  ⟨SameLinks.refl fs, fun _ => .inl rfl⟩

theorem trans {fs'' : FileSystem α} (h : AddsDirectories fs fs') (h' : AddsDirectories fs' fs'') :
    AddsDirectories fs fs'' := by
  refine ⟨h.1.trans h'.1, fun place => ?_⟩
  rcases h'.2 place with hsame | ⟨hnone, hnew⟩
  · rw [hsame]
    exact h.2 place
  · rcases h.2 place with hsame' | ⟨-, hnew'⟩
    · exact .inr ⟨hsame' ▸ hnone, hnew⟩
    · rw [hnew'] at hnone
      cases hnone

theorem growsTo (h : AddsDirectories fs fs') : GrowsTo fs fs' := by
  refine ⟨h.1, fun place hplace => ?_, fun place content hplace => ?_⟩
  · rcases h.2 place with hsame | ⟨hnone, -⟩
    · rw [hsame, hplace]
    · rw [hnone] at hplace
      cases hplace
  · rcases h.2 place with hsame | ⟨hnone, -⟩
    · exact ⟨content, by rw [hsame, hplace]⟩
    · rw [hnone] at hplace
      cases hplace

end AddsDirectories

theorem makeDirectory_adds {p : Path} {made : FileSystem α} (h : fs.makeDirectory p = .ok made) :
    AddsDirectories fs made := by
  have hholds := locate_holds fs .create p
  unfold makeDirectory at h
  split at h
  · cases h
  · next place habsent =>
    cases h
    rw [habsent] at hholds
    have hnone : fs.entryAt place = none := hholds
    have htakes : TakesFile fs place := .inl hnone
    refine ⟨sameLinks_set rfl htakes.linkAt_eq htakes.ne_root, fun other => ?_⟩
    by_cases hother : place = other
    · subst hother
      exact .inr ⟨hnone, entryAt_set_self htakes.ne_root _⟩
    · exact .inl (entryAt_set_of_ne hother _)
  · cases h

/-- Creating a directory with its parents only adds directories, also when it fails. -/
theorem makeDirectories_adds (anchor : Anchor) (reversed : List String) (fs : FileSystem α) :
    AddsDirectories fs (makeDirectories anchor reversed fs).2 := by
  induction reversed generalizing fs with
  | nil =>
    unfold makeDirectories
    simp only
    cases hmade : fs.makeDirectory ⟨anchor, [].reverse⟩ with
    | ok made => exact makeDirectory_adds hmade
    | error e =>
      obtain ⟨fault, q⟩ := e
      cases fault <;> exact AddsDirectories.refl fs
  | cons name parents ih =>
    unfold makeDirectories
    simp only
    cases hmade : fs.makeDirectory ⟨anchor, (name :: parents).reverse⟩ with
    | ok made => exact makeDirectory_adds hmade
    | error e =>
      obtain ⟨fault, q⟩ := e
      cases fault with
      | missing =>
        have hparents := ih fs
        cases hmake : makeDirectories anchor parents fs with
        | mk outcome made =>
        rw [hmake] at hparents
        cases outcome with
        | error e => exact hparents
        | ok _ =>
          simp only
          cases hdone : made.makeDirectory ⟨anchor, (name :: parents).reverse⟩ with
          | ok done => exact hparents.trans (makeDirectory_adds hdone)
          | error e =>
            obtain ⟨fault, q⟩ := e
            cases fault <;> exact hparents
      | _ => exact AddsDirectories.refl fs

/-! ## Equal entries -/

theorem walk_congr (hentries : ∀ q, fs.entryAt q = fs'.entryAt q) (purpose : Purpose)
    (follow : Location → List String → Located α) (place : Location) (steps : List String) :
    fs.walk purpose follow place steps = fs'.walk purpose follow place steps := by
  induction steps generalizing place with
  | nil => simp only [walk, hentries]
  | cons name rest ih => simp only [walk, hentries, ih]

theorem walkWithin_congr (hentries : ∀ q, fs.entryAt q = fs'.entryAt q) (purpose : Purpose)
    (links : Nat) : fs.walkWithin purpose links = fs'.walkWithin purpose links := by
  induction links with
  | zero =>
    funext place steps
    exact walk_congr hentries purpose _ place steps
  | succ links ih =>
    funext place steps
    rw [walkWithin, walkWithin, ih]
    exact walk_congr hentries purpose _ place steps

theorem locate_congr (hentries : ∀ q, fs.entryAt q = fs'.entryAt q) (purpose : Purpose)
    (p : Path) : fs.locate purpose p = fs'.locate purpose p := by
  simp only [locate, walkWithin_congr hentries]

/-! ## Other contents -/

theorem sameLinks_mapContents (g : Location → α → α) (fs : FileSystem α) :
    SameLinks fs (fs.mapContents g) := by
  refine ⟨fun place => ?_, (linkCount_mapContents fs).symm⟩
  rw [linkAt_eq_bind, linkAt_eq_bind, entryAt_mapContents]
  cases fs.entryAt place with
  | none => rfl
  | some e => cases e <;> rfl

def contentAt (q : Location) (content : α) (place : Location) (old : α) : α :=
  if place = q then content else old

/-- A new content of a file shows where a path leads to it, and nowhere else. -/
theorem locate_set_file {q : Location} {old : α} (hold : fs.entryAt q = some (.file old))
    (content : α) (purpose : Purpose) (p : Path) :
    (fs.set q (.file content)).locate purpose p =
      (fs.locate purpose p).map (contentAt q content) := by
  rw [← locate_mapContents]
  apply locate_congr
  intro place
  rw [entryAt_mapContents]
  by_cases hplace : q = place
  · subst hplace
    rw [entryAt_set_self (takesFile_of_file hold).ne_root, hold]
    simp [Entry.map, contentAt]
  · rw [entryAt_set_of_ne hplace]
    cases fs.entryAt place with
    | none => rfl
    | some e => cases e <;> simp [Entry.map, contentAt, Ne.symm hplace]

/-- A new content is not seen by reading a path that leads elsewhere. -/
theorem read_set_file {q : Location} {old : α} (hold : fs.entryAt q = some (.file old))
    (content : α) {p : Path} (hp : ¬ LeadsTo fs p q) :
    (fs.set q (.file content)).read p = fs.read p := by
  unfold read
  rw [locate_set_file hold]
  cases hlocate : fs.locate .look p with
  | found place e =>
    have hplace : place ≠ q := by
      rintro rfl
      exact hp ⟨.look, by simp, by rw [hlocate, Located.end?]⟩
    cases e <;> simp [Located.map, Entry.map, contentAt, hplace]
  | absent place => rfl
  | failed fault => rfl

/-- What is read after one file has got a new content: that content, or what was read before. -/
theorem read_set_file_ok {q : Location} {old content found : α}
    (hold : fs.entryAt q = some (.file old)) {p : Path}
    (hread : (fs.set q (.file content)).read p = .ok found) :
    ∃ before, fs.read p = .ok before ∧ (found = before ∨ before = old ∧ found = content) := by
  have hholds := locate_holds fs .look p
  unfold read at hread ⊢
  rw [locate_set_file hold] at hread
  cases hlocate : fs.locate .look p with
  | found place e =>
    rw [hlocate] at hread hholds
    cases e with
    | file before =>
      refine ⟨before, rfl, ?_⟩
      have hentry : fs.entryAt place = some (.file before) := hholds
      by_cases hplace : place = q
      · rw [hplace, hold] at hentry
        cases hentry
        have hfound : found = contentAt q content place old := (Except.ok.inj hread).symm
        rw [contentAt, if_pos hplace] at hfound
        exact .inr ⟨rfl, hfound⟩
      · have hfound : found = contentAt q content place before := (Except.ok.inj hread).symm
        rw [contentAt, if_neg hplace] at hfound
        exact .inl hfound
    | directory => cases hread
    | link target => cases hread
  | absent place =>
    rw [hlocate] at hread
    cases hread
  | failed fault =>
    rw [hlocate] at hread
    cases hread

/-- A new content of the file to which a path leads is read from that path. -/
theorem read_set_of_leadsTo {p : Path} {place : Location} {old : α} (hread : fs.read p = .ok old)
    (hlead : LeadsTo fs p place) (content : α) :
    (fs.set place (.file content)).read p = .ok content := by
  have hholds := locate_holds fs .look p
  unfold read at hread ⊢
  cases hlocate : fs.locate .look p with
  | found q e =>
    rw [hlocate] at hread hholds
    have hq : LeadsTo fs p q := ⟨.look, by simp, by rw [hlocate, Located.end?]⟩
    obtain rfl : q = place := hq.mayLeadTo.unique hlead.mayLeadTo
    cases e with
    | file before =>
      have hentry : fs.entryAt q = some (.file before) := hholds
      rw [locate_set_file hentry, hlocate]
      simp [Located.map, Entry.map, contentAt]
    | directory => cases hread
    | link target => cases hread
  | absent q =>
    rw [hlocate] at hread
    cases hread
  | failed fault =>
    rw [hlocate] at hread
    cases hread

theorem read_set_target {p : Path} {place : Location} {old : α} (hread : fs.read p = .ok old)
    (hplace : fs.writeTarget p = .ok place) (content : α) :
    (fs.set place (.file content)).read p = .ok content :=
  read_set_of_leadsTo hread (writeTarget_ok hplace).1 content

end WorkbookTools.FileSystem
