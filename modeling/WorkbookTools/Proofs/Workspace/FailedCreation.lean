import WorkbookTools.Proofs.Workspace.NewFiles

/-!
# Creations that fail

The directories above a new workbook are created before its title is checked. A creation that fails
because something is refused therefore leaves the workspace as it was just if it goes to a directory
that exists; otherwise the directories remain.

* `SameButDirectories.of_error`: no failure leaves more behind than directories.
* `unchanged_iff_directory_exists`: when nothing is left behind.
-/

namespace WorkbookTools

/-- A refused value, or a failure while running, of the general kind or one of formats to come. -/
def ErrorCategory.isValueOrRuntime (c : ErrorCategory) : Bool :=
  c.isValue || c = .runtime || c = .laterFormat

theorem category_of_fault {e : FileError} (h : e.fault ≠ .embeddedNul) :
    ¬ (Error.file e).category.isValueOrRuntime := by
  obtain ⟨fault, path⟩ := e
  cases fault <;> first | exact absurd rfl h | exact nofun

namespace Workspace

open WorkbookTools.Action FileSystem

variable {w w' : Workspace} {policy : Option PathPolicy} {r : CreateRequest} {e : Error}
  {target : Destination} {title : String}

/-- Nothing is different but that there may be more directories. -/
structure SameButDirectories (w w' : Workspace) : Prop where
  others : w' = { w with files := w'.files }
  files : AddsDirectories w.files w'.files

theorem SameButDirectories.refl (w : Workspace) : SameButDirectories w w :=
  ⟨rfl, AddsDirectories.refl w.files⟩

theorem sameButDirectories_makeDirectories (anchor : Anchor) (reversed : List String)
    (w : Workspace) :
    SameButDirectories w { w with files := (makeDirectories anchor reversed w.files).2 } :=
  ⟨rfl, makeDirectories_adds anchor reversed w.files⟩

/-! ## Failures of the steps -/

/-- The steps that change files fail at a directory, at the title or at the file. -/
theorem createAt_error (hworkbook : isFileWorkbook target.path)
    (h : result (createAt target title) w = (.error e, w')) :
    w' = { w with files := (makeDirectories target.path.parent.anchor
        target.path.parent.parts.reverse w.files).2 } ∧
      ((∃ cause, (makeDirectories target.path.parent.anchor
          target.path.parent.parts.reverse w.files).1 = .error cause ∧ e = .file cause) ∨
        (makeDirectories target.path.parent.anchor target.path.parent.parts.reverse w.files).1 =
            .ok () ∧
          ((∃ cause, Workbook.firstTitle title = .error cause ∧ e = .title cause) ∨
            ∃ cause, w'.files.writeTarget target.path = .error cause ∧ e = .file cause)) := by
  rw [result_createAt hworkbook] at h
  cases hmake : makeDirectories target.path.parent.anchor target.path.parent.parts.reverse
      w.files with
  | mk outcome made =>
    rw [hmake] at h
    cases outcome with
    | error cause =>
      cases h
      exact ⟨rfl, .inl ⟨cause, rfl, rfl⟩⟩
    | ok _ =>
      simp only at h
      split at h
      · next cause hcause =>
        cases h
        exact ⟨rfl, .inr ⟨rfl, .inl ⟨cause, hcause, rfl⟩⟩⟩
      · split at h
        · next cause hcause =>
          cases h
          exact ⟨rfl, .inr ⟨rfl, .inr ⟨cause, hcause, rfl⟩⟩⟩
        · cases h

/-- A creation that fails leaves at most new directories behind. -/
theorem SameButDirectories.of_error (h : result (createWorkbook policy r) w = (.error e, w')) :
    SameButDirectories w w' := by
  rw [result_createWorkbook] at h
  split at h
  · cases h
    exact .refl w
  · next target htarget =>
    obtain ⟨resolved, -, hdestination⟩ := chosen_isDestination htarget
    split at h
    · obtain rfl := (Prod.mk.inj h).2
      exact .refl w
    · obtain ⟨rfl, -⟩ := createAt_error hdestination.workbook h
      exact sameButDirectories_makeDirectories _ _ w

theorem writeTarget_ne_embeddedNul {files : FileSystem Content} {p : Path} {cause : FileError}
    (hnames : ∀ name ∈ p.parts, '\x00' ∉ name.toList) (h : files.writeTarget p = .error cause) :
    cause.fault ≠ .embeddedNul := by
  unfold FileSystem.writeTarget at h
  split at h
  · cases h
  · cases h
    exact nofun
  · cases h
  · next fault hfailed =>
    cases h
    rintro rfl
    exact locate_ne_embeddedNul hnames hfailed

/-- The steps that change files refuse nothing but titles; by then the directories are there. -/
theorem createAt_refusal (hworkbook : isFileWorkbook target.path)
    (hnames : ∀ name ∈ target.path.parts, IsName name)
    (h : result (createAt target title) w = (.error e, w')) (he : e.category.isValueOrRuntime) :
    makeDirectories target.path.parent.anchor target.path.parent.parts.reverse w.files =
        (.ok (), w'.files) ∧
      ∃ cause, Workbook.firstTitle title = .error cause ∧ e = .title cause := by
  have hnul : ∀ name ∈ target.path.parts, '\x00' ∉ name.toList :=
    fun name hname => (hnames name hname).2.2.2
  have hparent : ∀ name ∈ target.path.parent.parts.reverse, '\x00' ∉ name.toList :=
    fun name hname => hnul name (List.dropLast_subset _ (List.mem_reverse.mp hname))
  obtain ⟨rfl, ⟨cause, hcause, rfl⟩ | ⟨hmade, ⟨cause, hcause, rfl⟩ | ⟨cause, hcause, rfl⟩⟩⟩ :=
    createAt_error hworkbook h
  · exact absurd he (category_of_fault (makeDirectories_ne_embeddedNul hparent (Prod.ext hcause rfl)))
  · exact ⟨Prod.ext hmade rfl, cause, hcause, rfl⟩
  · exact absurd he (category_of_fault (writeTarget_ne_embeddedNul hnul hcause))

/-- A creation that fails because something is refused leaves no trace just if the directory to which
the new workbook would go exists, or if there is no such directory because no destination is found or
a workbook is kept. If there is a trace, it consists of directories, and it is the title that is
refused. -/
theorem unchanged_iff_directory_exists
    (h : result (createWorkbook policy r) w = (.error e, w')) (he : e.category.isValueOrRuntime) :
    (w' = w ↔ ∀ target, chosen policy r w.files = .ok target →
      target.skipped = true ∨ w.files.isDirectory target.path.parent = .ok true) ∧
    (w' ≠ w → SameButDirectories w w' ∧
      ∃ cause, Workbook.firstTitle r.title = .error cause ∧ e = .title cause) := by
  have hsame := SameButDirectories.of_error h
  rw [result_createWorkbook] at h
  cases hchosen : chosen policy r w.files with
  | error cause =>
    rw [hchosen] at h
    cases h
    exact ⟨⟨fun _ => nofun, fun _ => rfl⟩, absurd rfl⟩
  | ok target =>
    rw [hchosen] at h
    obtain ⟨resolved, -, hdestination⟩ := chosen_isDestination hchosen
    by_cases hskipped : target.skipped = true
    · simp only [if_pos hskipped] at h
      obtain rfl := (Prod.mk.inj h).2
      refine ⟨⟨fun _ other hother => ?_, fun _ => rfl⟩, absurd rfl⟩
      cases hother
      exact .inl hskipped
    · simp only [if_neg hskipped] at h
      obtain ⟨hmake, htitle⟩ :=
        createAt_refusal hdestination.workbook hdestination.names h he
      have hunchanged := makeDirectories_unchanged_iff target.path.parent.anchor
        target.path.parent.parts.reverse w.files
      rw [List.reverse_reverse] at hunchanged
      refine ⟨⟨fun hsame other hother => ?_, fun hthere => ?_⟩, fun _ => ⟨hsame, htitle⟩⟩
      · cases hother
        rw [hsame] at hmake
        exact .inr (hunchanged.mp hmake)
      · have hdirectory := (hthere target rfl).resolve_left hskipped
        have hfiles := (Prod.mk.inj ((hunchanged.mpr hdirectory).symm.trans hmake)).2
        rw [hsame.others, ← hfiles]

/-! ## A refused title -/

/-- A workspace with one empty directory. -/
def directoryWorkspace : Workspace :=
  ofFiles ⟨[(["data"], .directory)]⟩ .absent

/-- A request for a workbook whose title has a slash. -/
def slashedRequest (text : String) : CreateRequest := ⟨Path.ofText text, .overwrite, "a/b"⟩

/-- In a directory that exists a refused title leaves no trace. -/
theorem refused_title_leaves_no_trace :
    (result (createWorkbook none (slashedRequest "/data/new.xlsx")) directoryWorkspace).1 =
        .error (.title (.invalidCharacter '/')) ∧
      (result (createWorkbook none (slashedRequest "/data/new.xlsx")) directoryWorkspace).2 =
        directoryWorkspace := by
  have hfails : (result (createWorkbook none (slashedRequest "/data/new.xlsx"))
      directoryWorkspace).1 = .error (.title (.invalidCharacter '/')) := by decide +kernel
  refine ⟨hfails, (unchanged_iff_directory_exists (result_eq hfails) rfl).1.mpr ?_⟩
  have hchosen : chosen none (slashedRequest "/data/new.xlsx") directoryWorkspace.files =
      .ok ⟨Path.ofText "/data/new.xlsx", none, false⟩ := by decide +kernel
  intro target htarget
  obtain rfl := Except.ok.inj (hchosen.symm.trans htarget)
  exact .inr (by decide +kernel)

/-- In a directory that does not exist a refused title leaves the directory behind. -/
theorem refused_title_leaves_directory :
    result (createWorkbook none (slashedRequest "/data/nested/new.xlsx")) directoryWorkspace =
      (.error (.title (.invalidCharacter '/')), { directoryWorkspace with
        files := ⟨[(["data"], .directory), (["data", "nested"], .directory)]⟩ }) := by
  decide +kernel

end Workspace

end WorkbookTools
