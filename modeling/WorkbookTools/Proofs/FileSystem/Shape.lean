import WorkbookTools.Proofs.FileSystem.Update
import WorkbookTools.Proofs.Policy

/-!
# File systems of the same shape

When only contents of files change, every path still leads to the same place, resolves to the same
path and is allowed or refused as before.

* `SameShape.set_file`: a new content of a file keeps the shape.
* `SameShape.resolvePath_eq`: policies give the same paths.
-/

namespace WorkbookTools

namespace FileSystem

variable {α : Type} {fs fs' fs'' : FileSystem α}

theorem resolve_congr (hentries : ∀ q, fs.entryAt q = fs'.entryAt q)
    (hcount : fs.linkCount = fs'.linkCount) (p : Path) : fs.resolve p = fs'.resolve p := by
  have hlinks : SameLinks fs' fs := by
    refine ⟨fun place => ?_, hcount.symm⟩
    rw [linkAt_eq_bind, linkAt_eq_bind, hentries]
  have hloop : ∀ q, fs.checkLoop q = fs'.checkLoop q := by
    intro q
    rw [checkLoop, checkLoop, locate_congr hentries]
  simp only [resolve, hcount, resolveWithin_of_sameLinks hlinks, hloop]

theorem end?_map {β : Type} {g : Location → α → β} (found : Located α) :
    (found.map g).end? = found.end? := by
  cases found <;> rfl

/-- The same directories, files and links, whatever the files hold. -/
structure SameShape (fs fs' : FileSystem α) : Prop where
  entries : ∀ q, (fs.mapContents fun _ _ => ()).entryAt q = (fs'.mapContents fun _ _ => ()).entryAt q
  linkCount : fs.linkCount = fs'.linkCount

namespace SameShape

theorem refl (fs : FileSystem α) : SameShape fs fs := ⟨fun _ => rfl, rfl⟩

theorem symm (h : SameShape fs fs') : SameShape fs' fs :=
  ⟨fun q => (h.entries q).symm, h.linkCount.symm⟩

theorem trans (h : SameShape fs fs') (h' : SameShape fs' fs'') : SameShape fs fs'' :=
  ⟨fun q => (h.entries q).trans (h'.entries q), h.linkCount.trans h'.linkCount⟩

/-- A new content of a file changes nothing else. -/
theorem set_file {place : Location} {old : α} (hold : fs.entryAt place = some (.file old))
    (content : α) : SameShape fs (fs.set place (.file content)) := by
  have htakes := takesFile_of_file hold
  refine ⟨fun q => ?_, (sameLinks_set_file htakes content).linkCount_eq⟩
  rw [entryAt_mapContents, entryAt_mapContents]
  by_cases hsame : place = q
  · subst hsame
    rw [hold, entryAt_set_self htakes.ne_root]
    rfl
  · rw [entryAt_set_of_ne hsame]

theorem pathExists_eq (h : SameShape fs fs') (p : Path) : fs.pathExists p = fs'.pathExists p := by
  rw [← pathExists_mapContents (g := fun _ _ => ()) fs,
    ← pathExists_mapContents (g := fun _ _ => ()) fs', pathExists, lookUp, locate_congr h.entries]
  rfl

theorem isFile_eq (h : SameShape fs fs') (p : Path) : fs.isFile p = fs'.isFile p := by
  rw [← isFile_mapContents (g := fun _ _ => ()) fs,
    ← isFile_mapContents (g := fun _ _ => ()) fs', isFile, lookUp, locate_congr h.entries]
  rfl

theorem writeTarget_eq (h : SameShape fs fs') (p : Path) : fs.writeTarget p = fs'.writeTarget p := by
  rw [← writeTarget_mapContents (g := fun _ _ => ()) fs,
    ← writeTarget_mapContents (g := fun _ _ => ()) fs', writeTarget, locate_congr h.entries]
  rfl

/-- Every path leads to the same place. -/
theorem leadsTo {p : Path} {place : Location} (h : SameShape fs fs') (hlead : LeadsTo fs p place) :
    LeadsTo fs' p place := by
  obtain ⟨purpose, hpurpose, hplace⟩ := hlead
  refine ⟨purpose, hpurpose, ?_⟩
  have hsame : (fs.locate purpose p).map (fun _ _ => ()) = (fs'.locate purpose p).map fun _ _ => () := by
    rw [← locate_mapContents, ← locate_mapContents, locate_congr h.entries]
  rw [← end?_map (g := fun _ _ => ()), ← hsame, end?_map, hplace]

theorem resolve_eq (h : SameShape fs fs') (p : Path) : fs.resolve p = fs'.resolve p := by
  rw [← resolve_mapContents (g := fun _ _ => ()) fs,
    ← resolve_mapContents (g := fun _ _ => ()) fs']
  refine resolve_congr h.entries ?_ p
  rw [linkCount_mapContents, linkCount_mapContents, h.linkCount]

theorem resolvePath_eq (h : SameShape fs fs') (policy : Option PathPolicy) (p : Path) :
    PathPolicy.resolvePath policy fs p = PathPolicy.resolvePath policy fs' p := by
  cases policy with
  | none => simp only [PathPolicy.resolvePath, h.resolve_eq]
  | some policy =>
    have hroot : policy.resolvedRoot fs = policy.resolvedRoot fs' := by
      simp only [PathPolicy.resolvedRoot, h.resolve_eq]
    simp only [PathPolicy.resolvePath, PathPolicy.allow, hroot, h.resolve_eq]

end SameShape

/-- The file that is read from a path stands where the path leads for writing. -/
theorem entryAt_target {p : Path} {place : Location} {content : α} (hread : fs.read p = .ok content)
    (hplace : fs.writeTarget p = .ok place) : fs.entryAt place = some (.file content) := by
  obtain ⟨other, hother, hentry⟩ := read_ok hread
  obtain rfl : other = place := hother.mayLeadTo.unique (writeTarget_ok hplace).1.mayLeadTo
  exact hentry

end FileSystem

end WorkbookTools
