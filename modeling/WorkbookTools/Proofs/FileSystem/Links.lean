import Mathlib.Tactic.SplitIfs
import WorkbookTools.FileSystem.Resolve
import WorkbookTools.Proofs.FileSystem.Steps

/-!
# Links decide where paths lead

Two file systems with the same links lead every path to the same place, if they lead it anywhere:
whether a walk arrives depends on the directories and files, but where it arrives does not.

Main statements: `MayLeadTo.unique`, a path may lead to one place only; `GrowsTo.locate_failed`, a
walk that follows too many links goes on to do so while entries are added.
-/

namespace WorkbookTools.FileSystem

variable {α : Type} {fs fs' fs'' : FileSystem α}

/-! ## Entries after an update -/

theorem entryAt_set_self {place : Location} (hplace : place ≠ []) (e : Entry α) :
    (fs.set place e).entryAt place = some e := by
  rw [entryAt_set fs place place e hplace, if_pos rfl]

theorem entryAt_set_of_ne {place other : Location} (hother : place ≠ other) (e : Entry α) :
    (fs.set place e).entryAt other = fs.entryAt other := by
  by_cases hroot : other = []
  · rw [hroot]
    rfl
  · rw [entryAt_set fs place other e hroot, if_neg hother]

/-! ## File systems with the same links -/

def linkAt (fs : FileSystem α) (place : Location) : Option String :=
  match fs.entryAt place with
  | some (.link target) => some target
  | _ => none

theorem linkAt_eq_some {place : Location} {target : String} :
    fs.linkAt place = some target ↔ fs.entryAt place = some (.link target) := by
  unfold linkAt
  split <;> simp_all

/-- The same links stand in both file systems. -/
structure SameLinks (fs fs' : FileSystem α) : Prop where
  linkAt_eq : ∀ place, fs.linkAt place = fs'.linkAt place
  linkCount_eq : fs.linkCount = fs'.linkCount

namespace SameLinks

theorem refl (fs : FileSystem α) : SameLinks fs fs := ⟨fun _ => rfl, rfl⟩

theorem symm (h : SameLinks fs fs') : SameLinks fs' fs :=
  ⟨fun place => (h.linkAt_eq place).symm, h.linkCount_eq.symm⟩

theorem trans (h : SameLinks fs fs') (h' : SameLinks fs' fs'') : SameLinks fs fs'' :=
  ⟨fun place => (h.linkAt_eq place).trans (h'.linkAt_eq place),
    h.linkCount_eq.trans h'.linkCount_eq⟩

end SameLinks

def linkOf? : Entry α → Option String
  | .link target => some target
  | _ => none

theorem linkOf?_eq_none {e : Entry α} : linkOf? e = none ↔ ∀ target, e ≠ .link target := by
  cases e with
  | link target => exact ⟨nofun, fun h => absurd rfl (h target)⟩
  | _ => exact ⟨fun _ => nofun, fun _ => rfl⟩

theorem linkAt_eq_bind (fs : FileSystem α) (place : Location) :
    fs.linkAt place = (fs.entryAt place).bind linkOf? := by
  unfold linkAt
  split
  · next h => rw [h, Option.bind_some, linkOf?]
  · next h =>
    cases hentry : fs.entryAt place with
    | none => rfl
    | some e =>
      cases e with
      | link target => exact absurd hentry (h target)
      | _ => rfl

theorem linkCount_eq_countP (entries : List (Location × Entry α)) :
    linkCount ⟨entries⟩ = entries.countP fun (_, e) => (linkOf? e).isSome := by
  unfold linkCount
  congr 1
  funext ⟨place, e⟩
  cases e <;> rfl

theorem linkAt_eq_none (hcount : fs.linkCount = 0) (place : Location) : fs.linkAt place = none := by
  obtain ⟨entries⟩ := fs
  rw [linkCount_eq_countP, List.countP_eq_zero] at hcount
  rw [linkAt_eq_bind, entryAt]
  split
  · rfl
  · induction entries with
    | nil => rfl
    | cons first rest ih =>
      unfold find
      split
      · simpa using hcount first List.mem_cons_self
      · exact ih fun e he => hcount e (List.mem_cons_of_mem _ he)

theorem linkCount_put {place : Location} {e : Entry α} (he : linkOf? e = none)
    {entries : List (Location × Entry α)} (hold : (find place entries).bind linkOf? = none) :
    linkCount ⟨put place e entries⟩ = linkCount ⟨entries⟩ := by
  rw [linkCount_eq_countP, linkCount_eq_countP]
  induction entries with
  | nil => simp [put, he]
  | cons first rest ih =>
    obtain ⟨other, old⟩ := first
    simp only [put, find] at hold ⊢
    split
    · next h =>
      rw [if_pos h, Option.bind_some] at hold
      simp [he, hold]
    · next h =>
      rw [if_neg h] at hold
      rw [List.countP_cons, List.countP_cons, ih hold]

/-- Setting an entry that is no link, where there is none, keeps the links. -/
theorem sameLinks_set {place : Location} {e : Entry α} (he : linkOf? e = none)
    (hold : fs.linkAt place = none) (hplace : place ≠ []) : SameLinks fs (fs.set place e) := by
  constructor
  · intro other
    by_cases hother : place = other
    · rw [← hother, hold, linkAt_eq_bind, entryAt_set_self hplace, Option.bind_some, he]
    · rw [linkAt_eq_bind, linkAt_eq_bind, entryAt_set_of_ne hother]
  · rw [linkAt_eq_bind, entryAt, if_neg hplace] at hold
    exact (linkCount_put he hold).symm

/-- The second file system has all directories, files and links of the first one in their places,
and no other links. Contents may differ. -/
structure GrowsTo (fs fs' : FileSystem α) : Prop where
  sameLinks : SameLinks fs fs'
  directory : ∀ place, fs.entryAt place = some .directory → fs'.entryAt place = some .directory
  file : ∀ place content, fs.entryAt place = some (.file content) →
    ∃ other, fs'.entryAt place = some (.file other)

namespace GrowsTo

theorem refl (fs : FileSystem α) : GrowsTo fs fs :=
  ⟨SameLinks.refl fs, fun _ h => h, fun _ content h => ⟨content, h⟩⟩

theorem trans (h : GrowsTo fs fs') (h' : GrowsTo fs' fs'') : GrowsTo fs fs'' := by
  refine ⟨h.sameLinks.trans h'.sameLinks, fun place hplace => ?_, fun place content hplace => ?_⟩
  · exact h'.directory place (h.directory place hplace)
  · obtain ⟨other, hother⟩ := h.file place content hplace
    exact h'.file place other hother

theorem link (h : GrowsTo fs fs') {place : Location} {target : String}
    (hplace : fs.entryAt place = some (.link target)) :
    fs'.entryAt place = some (.link target) := by
  rw [← linkAt_eq_some, ← h.sameLinks.linkAt_eq, linkAt_eq_some, hplace]

end GrowsTo

/-! ## Where paths lead -/

/-- The place at which a walk ends, whether something is there or not. -/
def Located.end? : Located α → Option Location
  | .found place _ => some place
  | .absent place => some place
  | .failed _ => none

theorem walk_nil_end {purpose : Purpose} {follow : Location → List String → Located α}
    {place q : Location} (h : (fs.walk purpose follow place []).end? = some q) : q = place := by
  simp only [walk] at h
  split at h
  · exact (Option.some.inj h).symm
  · cases h

/-- How a walk that ends somewhere takes its first step. -/
theorem walk_cons_end {purpose : Purpose} (hpurpose : purpose ≠ .create)
    {follow : Location → List String → Located α} {place q : Location} {name : String}
    {rest : List String} (h : (fs.walk purpose follow place (name :: rest)).end? = some q) :
    if name = "" ∨ name = "." then (fs.walk purpose follow place rest).end? = some q
    else if name = ".." then (fs.walk purpose follow place.dropLast rest).end? = some q
    else
      match fs.linkAt (place ++ [name]) with
      | some target => (follow (linkStart place target) (Path.stepsOf target ++ rest)).end? = some q
      | none =>
        (rest = [] ∧ q = place ++ [name]) ∨
          (fs.walk purpose follow (place ++ [name]) rest).end? = some q := by
  cases fs.walkStep purpose place name rest with
  | fails fault _ _ hfails =>
    rw [hfails] at h
    cases h
  | stays hplace hdot => rwa [if_pos hdot, ← walk_stays hplace hdot]
  | rises hplace hdots =>
    subst hdots
    rwa [if_neg (by decide), if_pos rfl, ← walk_rises hplace]
  | ends hinto hrest hentry =>
    rw [walk_ends hinto hrest hentry] at h
    rw [if_neg hinto.stirs, if_neg hinto.down, linkAt_eq_bind, hentry]
    exact .inl ⟨hrest, (Option.some.inj h).symm⟩
  | enters hinto e hentry hkind =>
    rw [walk_enters hinto hentry hkind] at h
    rw [if_neg hinto.stirs, if_neg hinto.down, linkAt_eq_bind, hentry, Option.bind_some,
      linkOf?_eq_none.mpr hkind]
    exact .inr h
  | follows hinto target hentry hgoes =>
    rw [if_neg hinto.stirs, if_neg hinto.down, linkAt_eq_some.mpr hentry]
    rwa [walk_follows hinto hentry hgoes] at h
  | stops _ _ _ hstops => exact absurd hstops.2 hpurpose

theorem walk_end_unique (hlinks : SameLinks fs fs') {purpose purpose' : Purpose}
    (hpurpose : purpose ≠ .create) (hpurpose' : purpose' ≠ .create)
    {follow follow' : Location → List String → Located α}
    (hfollow : ∀ place steps q q', (follow place steps).end? = some q →
      (follow' place steps).end? = some q' → q = q')
    (place : Location) (steps : List String) (q q' : Location)
    (h : (fs.walk purpose follow place steps).end? = some q)
    (h' : (fs'.walk purpose' follow' place steps).end? = some q') : q = q' := by
  induction steps generalizing place with
  | nil => rw [walk_nil_end h, walk_nil_end h']
  | cons name rest ih =>
    have hnext := walk_cons_end hpurpose h
    have hnext' := walk_cons_end hpurpose' h'
    rw [← hlinks.linkAt_eq] at hnext'
    split_ifs at hnext hnext' with hdot hdots
    · exact ih place hnext hnext'
    · exact ih place.dropLast hnext hnext'
    · cases hlink : fs.linkAt (place ++ [name]) with
      | some target =>
        rw [hlink] at hnext hnext'
        exact hfollow _ _ _ _ hnext hnext'
      | none =>
        rw [hlink] at hnext hnext'
        -- one walk may stop at a missing entry where the other goes on, but only at the last name
        rcases hnext with ⟨rfl, rfl⟩ | hnext <;> rcases hnext' with ⟨hrest, rfl⟩ | hnext'
        · rfl
        · exact (walk_nil_end hnext').symm
        · rw [hrest] at hnext
          exact walk_nil_end hnext
        · exact ih (place ++ [name]) hnext hnext'

theorem walkWithin_end_unique (hlinks : SameLinks fs fs') {purpose purpose' : Purpose}
    (hpurpose : purpose ≠ .create) (hpurpose' : purpose' ≠ .create) (links : Nat)
    (place : Location) (steps : List String) (q q' : Location)
    (h : (fs.walkWithin purpose links place steps).end? = some q)
    (h' : (fs'.walkWithin purpose' links place steps).end? = some q') : q = q' := by
  induction links generalizing place steps q q' with
  | zero =>
    exact walk_end_unique hlinks hpurpose hpurpose' (fun _ _ _ _ h _ => by cases h) place steps q q'
      h h'
  | succ links ih => exact walk_end_unique hlinks hpurpose hpurpose' ih place steps q q' h h'

theorem locate_end {purpose : Purpose} {p : Path} {q : Location}
    (h : (fs.locate purpose p).end? = some q) :
    (fs.walkWithin purpose maxLinks [] p.parts).end? = some q := by
  unfold locate at h
  split at h
  · cases h
  · split at h
    · cases h
    · exact h

/-- The path leads to the place, as files are read or written. -/
def LeadsTo (fs : FileSystem α) (p : Path) (place : Location) : Prop :=
  ∃ purpose, purpose ≠ .create ∧ (fs.locate purpose p).end? = some place

/-- The path leads to the place in some file system with the same links. -/
def MayLeadTo (fs : FileSystem α) (p : Path) (place : Location) : Prop :=
  ∃ fs', SameLinks fs fs' ∧ LeadsTo fs' p place

theorem LeadsTo.mayLeadTo {p : Path} {place : Location} (h : LeadsTo fs p place) :
    MayLeadTo fs p place :=
  ⟨fs, SameLinks.refl fs, h⟩

theorem MayLeadTo.of_sameLinks {p : Path} {place : Location} (h : MayLeadTo fs p place)
    (hlinks : SameLinks fs fs') : MayLeadTo fs' p place := by
  obtain ⟨other, hother, hplace⟩ := h
  exact ⟨other, hlinks.symm.trans hother, hplace⟩

/-- However the directories and files stand, a path leads to one place only. -/
theorem MayLeadTo.unique {p : Path} {q q' : Location} (h : MayLeadTo fs p q)
    (h' : MayLeadTo fs p q') : q = q' := by
  obtain ⟨other, hlinks, purpose, hpurpose, hend⟩ := h
  obtain ⟨other', hlinks', purpose', hpurpose', hend'⟩ := h'
  exact walkWithin_end_unique (hlinks.symm.trans hlinks') hpurpose hpurpose' maxLinks [] p.parts
    q q' (locate_end hend) (locate_end hend')

/-! ## Walks in a file system that has grown -/

namespace GrowsTo

theorem stepsInto (h : GrowsTo fs fs') {purpose : Purpose} {place : Location} {name : String}
    {rest : List String} (hinto : StepsInto fs purpose place name rest) :
    StepsInto fs' purpose place name rest :=
  { hinto with directory := h.directory place hinto.directory }

theorem kind (h : GrowsTo fs fs') {place : Location} {e : Entry α}
    (hentry : fs.entryAt place = some e) (hkind : ∀ target, e ≠ .link target) :
    ∃ other, fs'.entryAt place = some other ∧ ∀ target, other ≠ .link target := by
  cases e with
  | directory => exact ⟨_, h.directory place hentry, nofun⟩
  | file content =>
    obtain ⟨other, hother⟩ := h.file place content hentry
    exact ⟨_, hother, nofun⟩
  | link target => exact absurd rfl (hkind target)

/-- A walk that follows too many links goes on to do so. Walking itself gives no fault of the two
kinds; they come from `follow`. -/
theorem walk_failed (h : GrowsTo fs fs') {fault : FileFault}
    (hfault : fault = .loop ∨ fault = .embeddedNul)
    {follow follow' : Location → List String → Located α}
    (hfollow : ∀ place steps, follow place steps = .failed fault →
      follow' place steps = .failed fault) (purpose : Purpose) (place : Location)
    (steps : List String) (hloop : fs.walk purpose follow place steps = .failed fault) :
    fs'.walk purpose follow' place steps = .failed fault := by
  induction steps generalizing place with
  | nil =>
    simp only [walk] at hloop
    obtain rfl | rfl := hfault <;> split at hloop <;> cases hloop
  | cons name rest ih =>
    cases fs.walkStep purpose place name rest with
    | fails other hloop' hnul' hfails =>
      rw [hfails, Located.failed.injEq] at hloop
      rcases hfault with rfl | rfl
      · exact absurd hloop hloop'
      · exact absurd hloop hnul'
    | stays hplace hdot =>
      rw [walk_stays hplace hdot] at hloop
      rw [walk_stays (h.directory place hplace) hdot]
      exact ih place hloop
    | rises hplace hdots =>
      subst hdots
      rw [walk_rises hplace] at hloop
      rw [walk_rises (h.directory place hplace)]
      exact ih place.dropLast hloop
    | ends hinto hrest hentry =>
      rw [walk_ends hinto hrest hentry] at hloop
      cases hloop
    | enters hinto e hentry hkind =>
      obtain ⟨other, hother, hkind'⟩ := h.kind hentry hkind
      rw [walk_enters hinto hentry hkind] at hloop
      rw [walk_enters (h.stepsInto hinto) hother hkind']
      exact ih _ hloop
    | follows hinto target hentry hgoes =>
      rw [walk_follows hinto hentry hgoes] at hloop
      rw [walk_follows (h.stepsInto hinto) (h.link hentry) hgoes]
      exact hfollow _ _ hloop
    | stops hinto target hentry hstops =>
      rw [walk_stops hinto hentry hstops] at hloop
      cases hloop

theorem walkWithin_failed (h : GrowsTo fs fs') {fault : FileFault}
    (hfault : fault = .loop ∨ fault = .embeddedNul) (purpose : Purpose) (links : Nat)
    (place : Location) (steps : List String)
    (hloop : fs.walkWithin purpose links place steps = .failed fault) :
    fs'.walkWithin purpose links place steps = .failed fault := by
  induction links generalizing place steps with
  | zero => exact h.walk_failed hfault (fun _ _ hloop => hloop) purpose place steps hloop
  | succ links ih => exact h.walk_failed hfault ih purpose place steps hloop

theorem locate_failed (h : GrowsTo fs fs') {fault : FileFault}
    (hfault : fault = .loop ∨ fault = .embeddedNul) (purpose : Purpose) (p : Path)
    (hloop : fs.locate purpose p = .failed fault) : fs'.locate purpose p = .failed fault := by
  unfold locate at hloop ⊢
  split at hloop
  · next hnul => rwa [if_pos hnul]
  · next hnul =>
    rw [if_neg hnul]
    split at hloop
    · next hlong => rwa [if_pos hlong]
    · next hlong =>
      rw [if_neg hlong]
      exact h.walkWithin_failed hfault purpose maxLinks [] p.parts hloop

end GrowsTo

end WorkbookTools.FileSystem
