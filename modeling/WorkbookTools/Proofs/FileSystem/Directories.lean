import WorkbookTools.Proofs.FileSystem.Walks

/-!
# New directories

Creating the missing directories above a path leaves the file system as it is or ends with a new
directory that is empty.

* `makeDirectories_unchanged_iff`: nothing is created just if the directory is there already.
* `entryAt_target_of_absent`: a path that leads to nothing is written to where nothing stands, also
  after the directories above it have been created.
* `read_set_of_writeTarget`: what has been written is read.
-/

namespace WorkbookTools.FileSystem

variable {α : Type} {fs made : FileSystem α} {p : Path} {q : Location} {name : String}
  {e : Entry α}

/-! ## Creating directories -/

theorem makeDirectory_error {f : FileError} (h : fs.makeDirectory p = .error f) : f.path = p := by
  unfold makeDirectory at h
  split at h <;> cases h
  all_goals rfl

theorem makeDirectory_ok (h : fs.makeDirectory p = .ok made) :
    ∃ q, fs.entryAt q = none ∧ fs.entryAt q.dropLast = some .directory ∧
      made = fs.set q .directory ∧ made.locate .look p = .found q .directory := by
  unfold makeDirectory at h
  split at h
  · cases h
  · next q habsent =>
    cases h
    exact ⟨q, (locate_absent habsent).1, locate_absent_parent habsent, rfl,
      locate_set_of_absent habsent rfl⟩
  · cases h

theorem isDirectory_iff : fs.isDirectory p = .ok true ↔ ∃ q, fs.locate .look p = .found q .directory := by
  unfold isDirectory lookUp
  cases fs.locate .look p with
  | found q e => cases e <;> simp [Except.map]
  | absent q => simp [Except.map]
  | failed fault => by_cases habsence : fault.isAbsence <;> simp [habsence, Except.map]

theorem unlessDirectory_ok {f : FileError} (h : fs.unlessDirectory f = .ok ()) :
    fs.isDirectory f.path = .ok true := by
  unfold unlessDirectory at h
  split at h
  · next hdirectory => exact hdirectory
  · cases h
  · cases h

variable {anchor : Anchor} {reversed : List String}

/-- All that creating a directory with its parents can do if it succeeds: the directory is there, it
is created, or its parents are created before. -/
theorem makeDirectories_cases (h : makeDirectories anchor reversed fs = (.ok (), made)) :
    (made = fs ∧ fs.isDirectory ⟨anchor, reversed.reverse⟩ = .ok true) ∨
      fs.makeDirectory ⟨anchor, reversed.reverse⟩ = .ok made ∨
      ∃ name parents above, reversed = name :: parents ∧
        makeDirectories anchor parents fs = (.ok (), above) ∧
        (above.makeDirectory ⟨anchor, reversed.reverse⟩ = .ok made ∨
          made = above ∧ above.isDirectory ⟨anchor, reversed.reverse⟩ = .ok true) := by
  have hthere : ∀ {f : FileError} {fs made : FileSystem α},
      fs.makeDirectory ⟨anchor, reversed.reverse⟩ = .error f →
      (fs.unlessDirectory f, fs) = (.ok (), made) →
      made = fs ∧ fs.isDirectory ⟨anchor, reversed.reverse⟩ = .ok true := by
    intro f fs made hf h
    obtain ⟨hok, rfl⟩ := Prod.mk.inj h
    exact ⟨rfl, makeDirectory_error hf ▸ unlessDirectory_ok hok⟩
  unfold makeDirectories at h
  simp only at h
  split at h
  · next hmade =>
    cases h
    exact .inr (.inl hmade)
  · cases reversed with
    | nil => cases h
    | cons name parents =>
      simp only at h
      split at h
      · cases h
      · next above habove =>
        refine .inr (.inr ⟨name, parents, above, rfl, habove, ?_⟩)
        split at h
        · next hdone =>
          cases h
          exact .inl hdone
        · cases h
        · next hf => exact .inr (hthere hf h)
  · next hf => exact .inl (hthere hf h)

/-- A directory that has been created is there. -/
theorem makeDirectories_isDirectory (h : makeDirectories anchor reversed fs = (.ok (), made)) :
    made.isDirectory ⟨anchor, reversed.reverse⟩ = .ok true := by
  have hnew : ∀ {fs : FileSystem α}, fs.makeDirectory ⟨anchor, reversed.reverse⟩ = .ok made →
      made.isDirectory ⟨anchor, reversed.reverse⟩ = .ok true := by
    intro fs h
    obtain ⟨q, -, -, -, hlook⟩ := makeDirectory_ok h
    exact isDirectory_iff.mpr ⟨q, hlook⟩
  rcases makeDirectories_cases h with ⟨rfl, hthere⟩ | hmade | ⟨_, _, _, -, -, hmade | ⟨rfl, hthere⟩⟩
  · exact hthere
  · exact hnew hmade
  · exact hnew hmade
  · exact hthere

/-- Nothing is created just if the directory is there already. -/
theorem makeDirectories_unchanged_iff (anchor : Anchor) (reversed : List String)
    (fs : FileSystem α) :
    makeDirectories anchor reversed fs = (.ok (), fs) ↔
      fs.isDirectory ⟨anchor, reversed.reverse⟩ = .ok true := by
  refine ⟨makeDirectories_isDirectory, fun hthere => ?_⟩
  obtain ⟨q, hlook⟩ := isDirectory_iff.mp hthere
  obtain ⟨q', e', hcreate⟩ := locate_create_of_found hlook
  have hpresent : fs.makeDirectory ⟨anchor, reversed.reverse⟩ =
      .error ⟨.present, ⟨anchor, reversed.reverse⟩⟩ := by
    simp only [makeDirectory, hcreate]
  unfold makeDirectories
  simp only [hpresent, unlessDirectory, hthere]

theorem isDirectory_error {f : FileError} (h : fs.isDirectory p = .error f) :
    f.fault ≠ .embeddedNul := by
  unfold isDirectory lookUp at h
  cases hlocate : fs.locate .look p with
  | found q e =>
    rw [hlocate] at h
    cases h
  | absent q =>
    rw [hlocate] at h
    cases h
  | failed fault =>
    simp only [hlocate] at h
    by_cases habsence : fault.isAbsence
    · rw [if_pos habsence] at h
      cases h
    · rw [if_neg habsence] at h
      cases h
      rintro rfl
      exact habsence rfl

theorem makeDirectory_ne_embeddedNul (hnames : ∀ name ∈ p.parts, '\x00' ∉ name.toList)
    {f : FileError} (h : fs.makeDirectory p = .error f) : f.fault ≠ .embeddedNul := by
  unfold makeDirectory at h
  split at h
  · cases h
    exact nofun
  · cases h
  · next fault hfailed =>
    cases h
    rintro rfl
    exact locate_ne_embeddedNul hnames hfailed

theorem unlessDirectory_ne_embeddedNul {cause f : FileError} (hcause : cause.fault ≠ .embeddedNul)
    (h : fs.unlessDirectory cause = .error f) : f.fault ≠ .embeddedNul := by
  unfold unlessDirectory at h
  split at h
  · cases h
  · cases h
    exact hcause
  · next other hother =>
    cases h
    exact isDirectory_error hother

/-- Directories whose path has no character NUL fail to be created for other reasons. -/
theorem makeDirectories_ne_embeddedNul (hnames : ∀ name ∈ reversed, '\x00' ∉ name.toList)
    {f : FileError} (h : makeDirectories anchor reversed fs = (.error f, made)) :
    f.fault ≠ .embeddedNul := by
  have hpath : ∀ name ∈ reversed.reverse, '\x00' ∉ name.toList :=
    fun name hname => hnames name (List.mem_reverse.mp hname)
  induction reversed generalizing made with
  | nil =>
    unfold makeDirectories at h
    simp only at h
    split at h
    · cases h
    · cases h
      exact nofun
    · next hcause =>
      exact unlessDirectory_ne_embeddedNul (makeDirectory_ne_embeddedNul hpath hcause)
        (Prod.mk.inj h).1
  | cons last parents ih =>
    have hparents : ∀ name ∈ parents, '\x00' ∉ name.toList :=
      fun name hname => hnames name (List.mem_cons_of_mem _ hname)
    unfold makeDirectories at h
    simp only at h
    split at h
    · cases h
    · split at h
      · next hfailed =>
        cases h
        exact ih hparents hfailed fun name hname => hparents name (List.mem_reverse.mp hname)
      · split at h
        · cases h
        · cases h
          exact nofun
        · next hcause =>
          exact unlessDirectory_ne_embeddedNul (makeDirectory_ne_embeddedNul hpath hcause)
            (Prod.mk.inj h).1
    · next hcause =>
      exact unlessDirectory_ne_embeddedNul (makeDirectory_ne_embeddedNul hpath hcause)
        (Prod.mk.inj h).1

/-- A new directory with nothing in it. -/
structure IsNewDirectory (fs made : FileSystem α) (directory : Location) : Prop where
  before : fs.entryAt directory = none
  empty : ∀ name, made.entryAt (directory ++ [name]) = none

theorem isNewDirectory_of_makeDirectory (htree : IsTree fs) (h : fs.makeDirectory p = .ok made) :
    IsTree made ∧ ∃ q, made.locate .look p = .found q .directory ∧ IsNewDirectory fs made q := by
  obtain ⟨q, hnone, hparent, rfl, hlook⟩ := makeDirectory_ok h
  refine ⟨htree.set hparent (.inl hnone) _, q, hlook, hnone, fun name => ?_⟩
  rw [entryAt_set_of_ne (by simp), htree.nothing_below (by rw [hnone]; exact nofun)]

/-- Creating a directory with its parents leaves the file system as it is, or ends with a new
directory with nothing in it. -/
theorem makeDirectories_ok (htree : IsTree fs) (hnames : ∀ name ∈ reversed, IsName name)
    (h : makeDirectories anchor reversed fs = (.ok (), made)) :
    IsTree made ∧ (made = fs ∨ ∃ q, made.locate .look ⟨anchor, reversed.reverse⟩ = .found q .directory ∧
      IsNewDirectory fs made q) := by
  induction reversed generalizing made with
  | nil =>
    rcases makeDirectories_cases h with ⟨rfl, -⟩ | hmade | ⟨_, _, _, hcons, -⟩
    · exact ⟨htree, .inl rfl⟩
    · obtain ⟨hmadeTree, hnew⟩ := isNewDirectory_of_makeDirectory htree hmade
      exact ⟨hmadeTree, .inr hnew⟩
    · cases hcons
  | cons last parents ih =>
    rcases makeDirectories_cases h with ⟨rfl, -⟩ | hmade | ⟨_, _, above, hcons, habove, hlast⟩
    · exact ⟨htree, .inl rfl⟩
    · obtain ⟨hmadeTree, hnew⟩ := isNewDirectory_of_makeDirectory htree hmade
      exact ⟨hmadeTree, .inr hnew⟩
    · cases hcons
      obtain ⟨hlastName, hparents⟩ := List.forall_mem_cons.mp hnames
      obtain ⟨haboveTree, hunchanged⟩ := ih hparents habove
      have hadds : AddsDirectories fs above := by
        have hadds := makeDirectories_adds anchor parents fs
        rwa [habove] at hadds
      rcases hlast with hmade | ⟨rfl, hthere⟩
      · obtain ⟨hmadeTree, q, hlook, hnew⟩ := isNewDirectory_of_makeDirectory haboveTree hmade
        refine ⟨hmadeTree, .inr ⟨q, hlook, ?_, hnew.empty⟩⟩
        rcases hadds.2 q with hsame | ⟨hnone, -⟩
        · rw [← hsame, hnew.before]
        · exact hnone
      · refine ⟨haboveTree, .inl ?_⟩
        rcases hunchanged with hsame | ⟨q, hlook, hnew⟩
        · exact hsame
        -- nothing is below the new directory, so the last one is not there yet
        · exfalso
          obtain ⟨r, hr⟩ := isDirectory_iff.mp hthere
          have hparts : (⟨anchor, (last :: parents).reverse⟩ : Path).parts =
              (⟨anchor, (last :: parents).reverse⟩ : Path).parent.parts ++ [last] := by
            simp [Path.parent]
          have hparent : (⟨anchor, (last :: parents).reverse⟩ : Path).parent =
              ⟨anchor, parents.reverse⟩ := by
            simp [Path.parent]
          exact locate_ne_found hparts hlastName (hnew.empty last) (hparent ▸ hlook) hr

/-! ## Writing below new directories -/

theorem pathExists_of_found (h : fs.locate .look p = .found q e) : fs.pathExists p = .ok true := by
  rw [pathExists, lookUp, h]
  rfl

theorem found_of_pathExists (h : fs.pathExists p = .ok true) :
    ∃ q e, fs.locate .look p = .found q e := by
  unfold pathExists lookUp at h
  cases hlocate : fs.locate .look p with
  | found q e => exact ⟨q, e, rfl⟩
  | absent q =>
    rw [hlocate] at h
    cases h
  | failed fault =>
    simp only [hlocate] at h
    split at h <;> cases h

/-- A path that leads to nothing is written to where nothing stands, also after the directories above
it have been created. -/
theorem entryAt_target_of_absent (htree : IsTree fs) (hp : p.parts = p.parent.parts ++ [name])
    (hnames : ∀ name ∈ p.parts, IsName name) (habsent : fs.pathExists p = .ok false)
    (hmake : makeDirectories p.parent.anchor p.parent.parts.reverse fs = (.ok (), made))
    (htarget : made.writeTarget p = .ok q) : fs.entryAt q = none := by
  have hadds : AddsDirectories fs made := by
    have hadds := makeDirectories_adds p.parent.anchor p.parent.parts.reverse fs
    rwa [hmake] at hadds
  have hnew : made.entryAt q = none → fs.entryAt q = none := by
    intro hnone
    rcases hadds.2 q with hsame | ⟨hnone, -⟩
    · rw [← hsame, hnone]
    · exact hnone
  have hparents : ∀ name ∈ p.parent.parts.reverse, IsName name := by
    intro name hname
    exact hnames name (hp ▸ List.mem_append_left _ (List.mem_reverse.mp hname))
  unfold writeTarget at htarget
  split at htarget
  · next content hfound =>
    cases htarget
    exfalso
    obtain ⟨-, rfl | ⟨directory, hlook, hnew⟩⟩ := makeDirectories_ok htree hparents hmake
    · rw [pathExists_of_found (locate_look_of_found hfound)] at habsent
      cases habsent
    -- the parent is new, so nothing is found in it
    · rw [List.reverse_reverse] at hlook
      have hname : IsName name := hnames name (by rw [hp]; simp)
      exact locate_ne_found hp hname (hnew.empty name) hlook hfound
  · cases htarget
  · next habsent =>
    cases htarget
    exact hnew (locate_absent habsent).1
  · cases htarget

/-- What has been written to a path is read from it. -/
theorem read_set_of_writeTarget (h : fs.writeTarget p = .ok q) (content : α) :
    (fs.set q (.file content)).read p = .ok content := by
  unfold writeTarget at h
  split at h
  · next old hfound =>
    cases h
    have hlook := locate_look_of_found hfound
    have hread : fs.read p = .ok old := by simp only [read, hlook]
    exact read_set_of_leadsTo hread ⟨.look, by simp, by rw [hlook, Located.end?]⟩ content
  · cases h
  · next habsent =>
    cases h
    simp only [read, locate_set_of_absent habsent (e := .file content) rfl]
  · cases h

end WorkbookTools.FileSystem
