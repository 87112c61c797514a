import WorkbookTools.Proofs.FileSystem.Directories
import WorkbookTools.Proofs.Naming
import WorkbookTools.Proofs.Policy.Resolved
import WorkbookTools.Proofs.Workbook.NewWorkbook
import WorkbookTools.Proofs.Workspace.Creating

/-!
# Creation, step by step

First the destination of a new workbook is chosen, by looking at the files only. If a workbook is
kept, it is opened; otherwise the directories above the destination are created, and then the new
workbook is written there.

* `chosen_isDestination`: what is known of a destination.
* `result_createWorkbook`: a creation as a choice and what follows from it.
* `result_createAt`: the steps that change files, in their order.
-/

namespace WorkbookTools.Workspace

open WorkbookTools.Action FileSystem

variable {w w' : Workspace} {policy : Option PathPolicy} {r : CreateRequest}
  {files : FileSystem Content} {resolved : Path} {target : Destination}

/-! ## The destination -/

theorem pathPresent_ok {p : Path} {isPresent : Bool} :
    pathPresent files p = .ok isPresent ↔ files.pathExists p = .ok isPresent :=
  mapError_eq_ok

theorem checkCreatable_ok {p : Path} : checkCreatable p = .ok () ↔ isFileWorkbook p := by
  unfold checkCreatable
  split <;> simp_all

theorem suffix_ne_of_isFileWorkbook {p : Path} (h : isFileWorkbook p) : p.suffix ≠ "" := by
  intro hnone
  rw [isFileWorkbook, Path.extension, hnone] at h
  revert h
  decide +kernel

theorem isFileWorkbook_numbered {p : Path} (h : isFileWorkbook p) (n : Nat) :
    isFileWorkbook (p.numbered n) := by
  rw [isFileWorkbook, Path.extension, Path.suffix_numbered (suffix_ne_of_isFileWorkbook h)]
  exact h

/-- The path of a workbook ends with its name. -/
theorem parts_of_isFileWorkbook {p : Path} (h : isFileWorkbook p) :
    p.parts = p.parent.parts ++ [p.name] := by
  have hparts : p.parts ≠ [] := by
    intro hnil
    refine suffix_ne_of_isFileWorkbook h ?_
    rw [Path.suffix, Path.name, hnil]
    decide +kernel
  rw [Path.name, Path.parent, List.getLast?_eq_some_getLast hparts, Option.getD_some,
    List.dropLast_append_getLast hparts]

/-- What is known of the destination of a workbook whose path has been resolved. -/
structure IsDestination (files : FileSystem Content) (onConflict : ConflictPolicy)
    (resolved : Path) (target : Destination) : Prop where
  workbook : isFileWorkbook target.path
  names : ∀ name ∈ target.path.parts, IsName name
  path : target.path = resolved ∨ onConflict = .rename ∧ ∃ n, target.path = resolved.numbered n
  skipped_iff : target.skipped = true ↔ onConflict = .skip ∧ files.pathExists resolved = .ok true
  free : target.skipped = false → files.pathExists target.path = .ok false ∨
    onConflict = .overwrite ∧ target.path = resolved ∧ files.pathExists resolved = .ok true

theorem chosen_isDestination (h : chosen policy r files = .ok target) :
    ∃ resolved, PathPolicy.resolvePath policy files r.path = .ok resolved ∧
      IsDestination files r.onConflict resolved target := by
  unfold chosen at h
  split at h
  · cases h
  · next resolved hresolved =>
    refine ⟨resolved, hresolved, ?_⟩
    split at h
    · cases h
    · next hcheck =>
      have hworkbook := checkCreatable_ok.mp hcheck
      have hnames := PathPolicy.resolvePath_names hresolved
      have hcases := destination_cases h
      simp only [pathPresent_ok] at hcases
      rcases hcases with ⟨hfree, hpath, hskipped⟩ | ⟨hthere, hskip, hpath, hskipped⟩ |
        ⟨hthere, hoverwrite, hpath, hskipped⟩ | ⟨hthere, hrename, -, ⟨n, hn⟩, hfree, hskipped⟩
      · exact ⟨hpath ▸ hworkbook, hpath ▸ hnames, .inl hpath, by simp [hskipped, hfree],
          fun _ => .inl (hpath ▸ hfree)⟩
      · exact ⟨hpath ▸ hworkbook, hpath ▸ hnames, .inl hpath, by simp [hskipped, hskip, hthere],
          by simp [hskipped]⟩
      · exact ⟨hpath ▸ hworkbook, hpath ▸ hnames, .inl hpath, by simp [hskipped, hoverwrite],
          fun _ => .inr ⟨hoverwrite, hpath, hthere⟩⟩
      · refine ⟨hn ▸ isFileWorkbook_numbered hworkbook n, ?_, .inr ⟨hrename, n, hn⟩,
          by simp [hskipped, hrename], fun _ => .inl hfree⟩
        intro name hname
        have hlast : '\x00' ∉ resolved.name.toList :=
          (hnames resolved.name (by rw [parts_of_isFileWorkbook hworkbook]; simp)).2.2.2
        rw [hn, Path.parts_numbered, List.mem_append, List.mem_singleton] at hname
        rcases hname with habove | rfl
        · exact hnames name (List.dropLast_subset _ habove)
        · exact Path.isName_numbered hlast n

/-! ## The steps -/

/-- The steps of a creation that change files. -/
def createAt (target : Destination) (title : String) : Action CreatedWorkbook := do
  ensureDirectory target.path
  writeNewWorkbook target.path title
  inform "excelauto.mcp.sheet_ops" ("Created workbook: " ++ target.path.text)
  pure ⟨target.path, true, [title], target.warning.toList⟩

/-- A creation is a choice, and then a look at a workbook that is kept or the steps that change
files. -/
theorem result_createWorkbook (policy : Option PathPolicy) (r : CreateRequest) (w : Workspace) :
    result (createWorkbook policy r) w =
      match chosen policy r w.files with
      | .error e => (.error e, w)
      | .ok target =>
        if target.skipped then
          ((opened target.path (w.files.read target.path)).map fun book =>
            ⟨target.path, false, book.titles, target.warning.toList⟩, w)
        else result (createAt target r.title) w := by
  unfold createWorkbook chosen
  rw [result_bind, result_resolvePath]
  cases PathPolicy.resolvePath policy w.files r.path with
  | error e => rfl
  | ok resolved =>
    simp only [mapError_ok, result_ofExcept_bind]
    cases checkCreatable resolved with
    | error e => rfl
    | ok checked =>
      simp only [result_bind, result_chooseDestination]
      cases destination (pathPresent w.files) .naming r.onConflict resolved with
      | error e => rfl
      | ok target =>
        simp only [result_ite]
        split
        · rw [result_bind, result_openStored]
          cases opened target.path (w.files.read target.path) <;> rfl
        · rfl

/-- The record of a workbook that has been created. -/
def creationRecord (p : Path) : LogRecord :=
  ⟨.info, "excelauto.mcp.sheet_ops", "Created workbook: " ++ p.text⟩

/-- The steps that change files, in their order: directories are created before the title is
checked. -/
theorem result_createAt (hworkbook : isFileWorkbook target.path) (title : String) (w : Workspace) :
    result (createAt target title) w =
      match w.files.makeDirectories target.path.parent.anchor target.path.parent.parts.reverse with
      | (.error e, made) => (.error (.file e), { w with files := made })
      | (.ok (), made) =>
        match Workbook.firstTitle title with
        | .error e => (.error (.title e), { w with files := made })
        | .ok first =>
          match made.writeTarget target.path with
          | .error e => (.error (.file e), { w with files := made })
          | .ok place =>
            (.ok ⟨target.path, true, [title], target.warning.toList⟩,
              (result (report [creationRecord target.path])
                { w with
                  files := made.set place (.file (.workbook (Workbook.storedSingle first))) }).2) := by
  unfold createAt
  rw [result_bind, result_ensureDirectory]
  cases w.files.makeDirectories target.path.parent.anchor target.path.parent.parts.reverse with
  | mk outcome made =>
    cases outcome with
    | error e => rfl
    | ok _ =>
      simp only [mapError_ok, writeNewWorkbook, checkCreatable_ok.mpr hworkbook,
        result_bind, result_ofExcept, Workbook.create]
      cases Workbook.firstTitle title with
      | error e => rfl
      | ok first =>
        simp only [bind, Except.bind, pure, Except.pure, mapError_ok, result_save]
        cases made.writeTarget target.path with
        | error e => rfl
        | ok place =>
          simp only [written, Workbook.stored_single]
          rfl

end WorkbookTools.Workspace
