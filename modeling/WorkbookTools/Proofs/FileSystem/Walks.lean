import WorkbookTools.Proofs.FileSystem.Following
import WorkbookTools.Proofs.FileSystem.Update

/-!
# Walks that go on

In a file system every entry stands in a directory, so nothing is below a place where nothing
stands. Where a walk ends, a longer one goes on, and so does one for another purpose or in a file
system with more entries.

* `GoesOn.walk`: how a walk is continued.
* `locate_name`: the path of a name in a directory.
* `locate_look_of_found`, `locate_create_of_found`: what is found for one purpose is found for
  another one.
-/

namespace WorkbookTools

/-- The written form has no other characters than the components, dots and slashes. -/
theorem Path.noNul_text (p : Path) (hnames : ∀ name ∈ p.parts, '\x00' ∉ name.toList) :
    '\x00' ∉ p.text.toList := by
  have hparts : ∀ parts : List String, (∀ name ∈ parts, '\x00' ∉ name.toList) →
      '\x00' ∉ (String.intercalate "/" parts).toList := by
    intro parts hnames
    induction parts with
    | nil => simp
    | cons first rest ih =>
      obtain ⟨hfirst, hrest⟩ := List.forall_mem_cons.mp hnames
      cases rest with
      | nil => simpa using hfirst
      | cons second others =>
        rw [String.intercalate_cons_cons]
        simp only [String.toList_append, List.mem_append, not_or]
        exact ⟨⟨hfirst, by decide⟩, ih hrest⟩
  have hanchor : '\x00' ∉ p.anchor.text.toList := by
    cases p.anchor <;> decide
  unfold text
  split
  · decide
  · rw [String.toList_append, List.mem_append, not_or]
    exact ⟨hanchor, hparts p.parts hnames⟩

namespace FileSystem

variable {α : Type} {fs fs' : FileSystem α} {purpose purpose' : Purpose} {p : Path}
  {directory place q : Location} {name : String} {steps more : List String} {e : Entry α}
  {follow follow' : Location → List String → Located α}

/-! ## Trees -/

/-- Every entry stands in a directory. -/
def IsTree (fs : FileSystem α) : Prop :=
  ∀ place name, fs.entryAt (place ++ [name]) ≠ none → fs.entryAt place = some .directory

theorem IsTree.nothing_below (h : IsTree fs) (hplace : fs.entryAt place ≠ some .directory)
    (name : String) : fs.entryAt (place ++ [name]) = none :=
  Decidable.byContradiction fun hentry => hplace (h place name hentry)

theorem mem_of_find {entries : List (Location × Entry α)} (h : find place entries = some e) :
    (place, e) ∈ entries := by
  induction entries with
  | nil => cases h
  | cons first rest ih =>
    obtain ⟨other, old⟩ := first
    unfold find at h
    split at h
    · next hsame =>
      cases h
      rw [hsame]
      exact List.mem_cons_self
    · exact List.mem_cons_of_mem _ (ih h)

theorem isTree_of_entries (h : ∀ entry ∈ fs.entries, fs.entryAt entry.1.dropLast = some .directory) :
    IsTree fs := by
  intro place name hentry
  obtain ⟨e, he⟩ := Option.ne_none_iff_exists'.mp hentry
  rw [entryAt, if_neg (by simp)] at he
  have hparent := h _ (mem_of_find he)
  rwa [List.dropLast_concat] at hparent

/-- An entry that is added in a directory, or that takes the place of a file. -/
theorem IsTree.set (h : IsTree fs) (hparent : fs.entryAt q.dropLast = some .directory)
    (hold : TakesFile fs q) (e : Entry α) : IsTree (fs.set q e) := by
  intro place name hentry
  have hplace : fs.entryAt place = some .directory := by
    by_cases hsame : q = place ++ [name]
    · rwa [hsame, List.dropLast_concat] at hparent
    · rw [entryAt_set_of_ne hsame] at hentry
      exact h place name hentry
  rw [entryAt_set_of_ne, hplace]
  rintro rfl
  exact hold.not_directory hplace

/-- A walk that ends where nothing stands has got to the directory there. -/
theorem walk_absent
    (hfollow : ∀ place steps, follow place steps = .absent q →
      fs.entryAt q.dropLast = some .directory)
    (h : fs.walk purpose follow place steps = .absent q) :
    fs.entryAt q.dropLast = some .directory := by
  induction steps generalizing place with
  | nil =>
    simp only [walk] at h
    split at h <;> cases h
  | cons step rest ih =>
    cases fs.walkStep purpose place step rest with
    | fails fault _ _ hfails =>
      rw [hfails] at h
      cases h
    | stays hplace hdot =>
      rw [walk_stays hplace hdot] at h
      exact ih h
    | rises hplace hdots =>
      subst hdots
      rw [walk_rises hplace] at h
      exact ih h
    | ends hinto hrest hentry =>
      rw [walk_ends hinto hrest hentry] at h
      cases h
      rw [List.dropLast_concat]
      exact hinto.directory
    | enters hinto e hentry hkind =>
      rw [walk_enters hinto hentry hkind] at h
      exact ih h
    | follows hinto target hentry hgoes =>
      rw [walk_follows hinto hentry hgoes] at h
      exact hfollow _ _ h
    | stops hinto target hentry hstops =>
      rw [walk_stops hinto hentry hstops] at h
      cases h

theorem walkWithin_absent (links : Nat)
    (h : fs.walkWithin purpose links place steps = .absent q) :
    fs.entryAt q.dropLast = some .directory := by
  induction links generalizing place steps with
  | zero => exact walk_absent (fun _ _ h => by cases h) h
  | succ links ih => exact walk_absent (fun _ _ h => ih h) h

/-! ## Refused paths -/

/-- Walking itself does not refuse a path for the character NUL. -/
theorem walk_ne_embeddedNul
    (hfollow : ∀ place steps, follow place steps ≠ .failed .embeddedNul) (place : Location)
    (steps : List String) : fs.walk purpose follow place steps ≠ .failed .embeddedNul := by
  induction steps generalizing place with
  | nil =>
    simp only [walk]
    split <;> exact fun h => by cases h
  | cons step rest ih =>
    cases fs.walkStep purpose place step rest with
    | fails fault _ hnul hfails =>
      rw [hfails]
      exact fun h => hnul (Located.failed.inj h)
    | stays hplace hdot =>
      rw [walk_stays hplace hdot]
      exact ih place
    | rises hplace hdots =>
      subst hdots
      rw [walk_rises hplace]
      exact ih place.dropLast
    | ends hinto hrest hentry =>
      rw [walk_ends hinto hrest hentry]
      exact fun h => by cases h
    | enters hinto e hentry hkind =>
      rw [walk_enters hinto hentry hkind]
      exact ih (place ++ [step])
    | follows hinto target hentry hgoes =>
      rw [walk_follows hinto hentry hgoes]
      exact hfollow _ _
    | stops hinto target hentry hstops =>
      rw [walk_stops hinto hentry hstops]
      exact fun h => by cases h

theorem walkWithin_ne_embeddedNul (links : Nat) (place : Location) (steps : List String) :
    fs.walkWithin purpose links place steps ≠ .failed .embeddedNul := by
  induction links generalizing place steps with
  | zero =>
    have hloop : ∀ (_ : Location) (_ : List String),
        (.failed .loop : Located α) ≠ .failed .embeddedNul := fun _ _ => nofun
    exact walk_ne_embeddedNul hloop place steps
  | succ links ih => exact walk_ne_embeddedNul ih place steps

theorem locate_ne_embeddedNul (hnames : ∀ name ∈ p.parts, '\x00' ∉ name.toList) :
    fs.locate purpose p ≠ .failed .embeddedNul := by
  unfold locate
  rw [if_neg (p.noNul_text hnames)]
  split
  · exact nofun
  · exact walkWithin_ne_embeddedNul maxLinks [] p.parts

/-! ## Longer walks -/

/-- What it takes for a walk that ends at a place to go on along more steps, for another purpose and
in a file system with more entries: `P` holds of what is found from there on. A walk for the creation
of a directory may end before, at a link. -/
structure GoesOn (fs fs' : FileSystem α) (purpose purpose' : Purpose) (more : List String)
    (q : Location) (P : Located α → Prop) : Prop where
  kept : ∀ r e, fs.entryAt r = some e → fs'.entryAt r = some e
  there : fs.entryAt q = none → ∃ e, fs'.entryAt q = some e ∧ linkOf? e = none
  link : purpose = .create → fs.linkAt q = none
  slash : purpose' = .write → more ≠ [] ∧ more ≠ [""]
  create : purpose' = .create → more = [] → ∀ place target, P (.found place (.link target))
  last : ∀ follow, P (fs'.walk purpose' follow q more)

namespace GoesOn

variable {P : Located α → Prop}

theorem stepsInto {step : String} {rest : List String}
    (hq : GoesOn fs fs' purpose purpose' more q P) (h : StepsInto fs purpose place step rest) :
    StepsInto fs' purpose' place step (rest ++ more) := by
  refine ⟨hq.kept _ _ h.directory, h.stirs, h.down, ?_, h.short⟩
  rintro ⟨hwrite, hboth⟩
  obtain ⟨hsome, hempty⟩ := hq.slash hwrite
  rcases List.append_eq_singleton_iff.mp hboth with ⟨-, hmore⟩ | ⟨-, hmore⟩
  · exact hempty hmore
  · exact hsome hmore

theorem walk (hq : GoesOn fs fs' purpose purpose' more q P)
    (hfollow : ∀ place steps, (follow place steps).end? = some q → P (follow' place (steps ++ more)))
    (h : (fs.walk purpose follow place steps).end? = some q) :
    P (fs'.walk purpose' follow' place (steps ++ more)) := by
  induction steps generalizing place with
  | nil =>
    rw [List.nil_append, ← walk_nil_end h]
    exact hq.last follow'
  | cons step rest ih =>
    rw [List.cons_append]
    cases fs.walkStep purpose place step rest with
    | fails fault _ _ hfails =>
      rw [hfails] at h
      cases h
    | stays hplace hdot =>
      rw [walk_stays hplace hdot] at h
      rw [walk_stays (hq.kept _ _ hplace) hdot]
      exact ih h
    | rises hplace hdots =>
      subst hdots
      rw [walk_rises hplace] at h
      rw [walk_rises (hq.kept _ _ hplace)]
      exact ih h
    | ends hinto hrest hentry =>
      rw [walk_ends hinto hrest hentry] at h
      cases h
      obtain ⟨e, hthere, he⟩ := hq.there hentry
      rw [walk_enters (hq.stepsInto hinto) hthere (linkOf?_eq_none.mp he), hrest, List.nil_append]
      exact hq.last follow'
    | enters hinto e hentry hkind =>
      rw [walk_enters hinto hentry hkind] at h
      rw [walk_enters (hq.stepsInto hinto) (hq.kept _ _ hentry) hkind]
      exact ih h
    | follows hinto target hentry hgoes =>
      rw [walk_follows hinto hentry hgoes] at h
      by_cases hstop : rest ++ more = [] ∧ purpose' = .create
      · rw [walk_stops (hq.stepsInto hinto) (hq.kept _ _ hentry) hstop]
        exact hq.create hstop.2 (List.append_eq_nil_iff.mp hstop.1).2 _ _
      · rw [walk_follows (hq.stepsInto hinto) (hq.kept _ _ hentry) hstop, ← List.append_assoc]
        exact hfollow _ _ h
    | stops hinto target hentry hstops =>
      rw [walk_stops hinto hentry hstops] at h
      cases h
      have hnone := hq.link hstops.2
      rw [linkAt_eq_some.mpr hentry] at hnone
      cases hnone

theorem walkWithin (hq : GoesOn fs fs' purpose purpose' more q P) (links : Nat)
    (h : (fs.walkWithin purpose links place steps).end? = some q) :
    P (fs'.walkWithin purpose' links place (steps ++ more)) := by
  induction links generalizing place steps with
  | zero => exact hq.walk (fun _ _ h => by cases h) h
  | succ links ih => exact hq.walk (fun _ _ h => ih h) h

/-- The text of a path that leads somewhere is not refused, for whatever purpose. -/
theorem locate (hq : GoesOn fs fs' purpose purpose' [] q P)
    (h : (fs.locate purpose p).end? = some q) : P (fs'.locate purpose' p) := by
  have hwalk := hq.walkWithin maxLinks (locate_end h)
  rw [List.append_nil] at hwalk
  unfold FileSystem.locate at h ⊢
  split at h
  · cases h
  · next hnul =>
    split at h
    · cases h
    · next hlong =>
      rw [if_neg hnul, if_neg hlong]
      exact hwalk

end GoesOn

/-! ## Names in a directory -/

/-- What a name leads to in a directory, unless a link is followed. -/
def entered (fs : FileSystem α) (directory : Location) (name : String) : Located α :=
  if maxNameBytes < name.utf8ByteSize then .failed .nameTooLong
  else
    match fs.entryAt (directory ++ [name]) with
    | none => .absent (directory ++ [name])
    | some e => .found (directory ++ [name]) e

theorem walk_last (hdirectory : fs.entryAt directory = some .directory) (hname : IsName name)
    (hlink : fs.linkAt (directory ++ [name]) = none) :
    fs.walk purpose follow directory [name] = fs.entered directory name := by
  have hslash : ¬ (purpose = .write ∧ ([] : List String) = [""]) := by simp
  simp only [walk, hdirectory, if_neg (not_or.mpr ⟨hname.1, hname.2.1⟩), if_neg hname.2.2.1,
    if_neg hslash, entered]
  split
  · rfl
  · cases hentry : fs.entryAt (directory ++ [name]) with
    | none => rfl
    | some e =>
      cases e with
      | link target =>
        rw [linkAt_eq_some.mpr hentry] at hlink
        cases hlink
      | _ => rfl

/-- The path of a name in a directory leads to what stands there, or its text is refused. -/
theorem locate_name (hp : p.parts = p.parent.parts ++ [name]) (hname : IsName name)
    (hlink : fs.linkAt (directory ++ [name]) = none)
    (h : fs.locate .look p.parent = .found directory .directory) :
    fs.locate purpose p = fs.entered directory name ∨
      ∃ fault, fs.locate purpose p = .failed fault := by
  have hdirectory : fs.entryAt directory = some .directory := by
    have hholds := locate_holds fs .look p.parent
    rwa [h] at hholds
  have hon : GoesOn fs fs .look purpose [name] directory (· = fs.entered directory name) :=
    { kept := fun _ _ h => h
      there := fun hnone => absurd (hdirectory.symm.trans hnone) nofun
      link := nofun
      slash := fun _ => ⟨List.cons_ne_nil _ _, fun h => hname.1 (List.singleton_inj.mp h)⟩
      create := fun _ h => absurd h (List.cons_ne_nil _ _)
      last := fun _ => walk_last hdirectory hname hlink }
  unfold locate
  split
  · exact .inr ⟨_, rfl⟩
  · split
    · exact .inr ⟨_, rfl⟩
    · rw [hp]
      exact .inl (hon.walkWithin maxLinks (locate_end (by rw [h, Located.end?])))

/-- Nothing is found under a name that a directory does not have. -/
theorem locate_ne_found (hp : p.parts = p.parent.parts ++ [name]) (hname : IsName name)
    (hnone : fs.entryAt (directory ++ [name]) = none)
    (h : fs.locate .look p.parent = .found directory .directory) :
    fs.locate purpose p ≠ .found q e := by
  intro hfound
  have hfree : TakesFile fs (directory ++ [name]) := .inl hnone
  have hend : ∀ end', fs.locate purpose p = end' → .found q e = end' := fun end' h => hfound ▸ h
  rcases locate_name hp hname hfree.linkAt_eq h with hentered | ⟨fault, hfailed⟩
  · unfold entered at hentered
    rw [hnone] at hentered
    split at hentered <;> cases hend _ hentered
  · cases hend _ hfailed

/-! ## Walks for different purposes -/

theorem locate_found (h : fs.locate purpose p = .found q e) :
    fs.entryAt q = some e ∧ (fs.locate purpose p).end? = some q := by
  have hholds := locate_holds fs purpose p
  rw [h] at hholds ⊢
  exact ⟨hholds, rfl⟩

theorem locate_absent (h : fs.locate purpose p = .absent q) :
    fs.entryAt q = none ∧ (fs.locate purpose p).end? = some q := by
  have hholds := locate_holds fs purpose p
  rw [h] at hholds ⊢
  exact ⟨hholds, rfl⟩

theorem locate_absent_parent (h : fs.locate purpose p = .absent q) :
    fs.entryAt q.dropLast = some .directory := by
  unfold locate at h
  split at h
  · cases h
  · split at h
    · cases h
    · exact walkWithin_absent maxLinks h

/-- A path that leads to something does so, perhaps through a link, when a directory is created. -/
theorem locate_create_of_found (h : fs.locate .look p = .found q e) :
    ∃ q' e', fs.locate .create p = .found q' e' := by
  obtain ⟨hentry, hend⟩ := locate_found h
  have hon : GoesOn fs fs .look .create [] q (fun found => ∃ q' e', found = .found q' e') :=
    { kept := fun _ _ h => h
      there := fun hnone => absurd (hentry.symm.trans hnone) nofun
      link := nofun
      slash := nofun
      create := fun _ _ _ _ => ⟨_, _, rfl⟩
      last := fun _ => ⟨q, e, by simp only [walk, hentry]⟩ }
  exact hon.locate hend

/-- What is found to be written is found to be looked at. -/
theorem locate_look_of_found (h : fs.locate .write p = .found q e) :
    fs.locate .look p = .found q e := by
  obtain ⟨hentry, hend⟩ := locate_found h
  have hon : GoesOn fs fs .write .look [] q (· = .found q e) :=
    { kept := fun _ _ h => h
      there := fun hnone => absurd (hentry.symm.trans hnone) nofun
      link := nofun
      slash := nofun
      create := nofun
      last := fun _ => by simp only [walk, hentry] }
  exact hon.locate hend

/-- A path that leads to where nothing stands leads to what is put there. -/
theorem locate_set_of_absent (h : fs.locate purpose p = .absent q) (he : linkOf? e = none) :
    (fs.set q e).locate .look p = .found q e := by
  obtain ⟨hnone, hend⟩ := locate_absent h
  have htakes : TakesFile fs q := .inl hnone
  have hnew : (fs.set q e).entryAt q = some e := entryAt_set_self htakes.ne_root e
  have hon : GoesOn fs (fs.set q e) purpose .look [] q (· = .found q e) :=
    { kept := fun r old hold => by
        rw [entryAt_set_of_ne, hold]
        rintro rfl
        rw [hnone] at hold
        cases hold
      there := fun _ => ⟨e, hnew, he⟩
      link := fun _ => htakes.linkAt_eq
      slash := nofun
      create := nofun
      last := fun _ => by simp only [walk, hnew] }
  exact hon.locate hend

end FileSystem

end WorkbookTools
