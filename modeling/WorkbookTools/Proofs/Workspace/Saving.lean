import WorkbookTools.Proofs.Action
import WorkbookTools.Proofs.FileSystem.Update

/-!
# Loading and saving

Looking for a workbook, opening it and loading it are functions of the files and leave the workspace
as it is. Saving writes one file, also when it fails because the workbook cannot be saved: the file
is then left unfinished.

* `result_existingWorkbook`, `result_openStored`, `result_load`: the reading actions as functions.
* `save_ok`, `save_error`: all that saving can do.
-/

namespace WorkbookTools

open WorkbookTools.Action FileSystem

/-- The error of a workbook that cannot be written to its file. -/
def Error.isSaveFailure : Error → Bool
  | .sheet (.unsavableColumn _) | .sheet .unsavableNumber => true
  | _ => false

namespace Workspace

variable {w w' : Workspace} {p : Path}

/-! ## Looking for a workbook -/

theorem result_resolvePath (policy : Option PathPolicy) (p : Path) (w : Workspace) :
    result (resolvePath policy p) w =
      ((PathPolicy.resolvePath policy w.files p).mapError .policy, w) :=
  result_ofExcept Error.policy (PathPolicy.resolvePath policy w.files p)

/-- The resolved path of a file that exists among the given ones. -/
def existing (policy : Option PathPolicy) (files : FileSystem Content) (p : Path) :
    Except Error Path :=
  match PathPolicy.resolvePath policy files p with
  | .error e => .error (.policy e)
  | .ok resolved =>
    match files.pathExists resolved with
    | .error e => .error (.file e)
    | .ok false => .error (.workbookMissing resolved)
    | .ok true =>
      match files.isFile resolved with
      | .error e => .error (.file e)
      | .ok false => .error (.workbookNotFile resolved)
      | .ok true => .ok resolved

theorem result_existingWorkbook (policy : Option PathPolicy) (p : Path) (w : Workspace) :
    result (existingWorkbook policy p) w = (existing policy w.files p, w) := by
  unfold existingWorkbook existing
  rw [result_bind, result_resolvePath]
  cases PathPolicy.resolvePath policy w.files p with
  | error e => rfl
  | ok resolved =>
    simp only [mapError_ok, result_get_bind, result_ofExcept_bind, result_ite,
      result_throw_bind]
    cases w.files.pathExists resolved with
    | error e => rfl
    | ok present =>
      cases present with
      | false => rfl
      | true =>
        cases w.files.isFile resolved with
        | error e => rfl
        | ok isFile => cases isFile <;> rfl

/-- A workbook that is found is a file at its resolved path. -/
theorem existing_ok {policy : Option PathPolicy} {files : FileSystem Content} {resolved : Path}
    (h : existing policy files p = .ok resolved) :
    PathPolicy.resolvePath policy files p = .ok resolved ∧ files.isFile resolved = .ok true := by
  unfold existing at h
  split at h
  · cases h
  · next found hfound =>
    split at h
    · cases h
    · cases h
    · split at h
      · cases h
      · cases h
      · next hfile =>
        cases h
        exact ⟨hfound, hfile⟩

theorem existing_bind_ok {α : Type} {policy : Option PathPolicy} {f : Path → Action α} {a : α}
    (h : result (existingWorkbook policy p >>= f) w = (.ok a, w')) :
    ∃ resolved, PathPolicy.resolvePath policy w.files p = .ok resolved ∧
      w.files.isFile resolved = .ok true ∧ result (f resolved) w = (.ok a, w') := by
  obtain ⟨resolved, next, hexisting, hrest⟩ := bind_ok.mp h
  rw [result_existingWorkbook] at hexisting
  obtain ⟨hfound, rfl⟩ := Prod.mk.inj hexisting
  obtain ⟨hresolved, hfile⟩ := existing_ok hfound
  exact ⟨resolved, hresolved, hfile, hrest⟩

/-! ## Loading -/

/-- What opening gives for the content that a path leads to. -/
def opened (p : Path) (content? : Except FileError Content) : Except Error StoredWorkbook :=
  if isFileWorkbook p then
    if (p.name.toList.dropWhile (· = '.')).all (· ≠ '.') then .error (.format .noReaderSuffix)
    else
      match content? with
      | .error e => .error (.file e)
      | .ok content =>
        match content.openBook with
        | .error e => .error (.format (.ofArchive p e))
        | .ok book =>
          match book.fault with
          | some place => .error (.format (.unreadable (.malformed place)))
          | none => .ok book
  else .error (.format (.notOpenable p.suffix p))

theorem result_openStored (p : Path) (w : Workspace) :
    result (openStored p) w = (opened p (w.files.read p), w) := by
  unfold opened
  simp only [openStored, result_ite, result_throw_bind, result_get_bind, result_ofExcept_bind]
  split
  · split
    · rfl
    · cases w.files.read p with
      | error e => rfl
      | ok content =>
        cases hopen : content.openBook with
        | error e => simp only [hopen]
        | ok book =>
          simp only [hopen]
          cases book.fault <;> rfl
  · rfl

theorem openBook_ok {content : Content} {book : StoredWorkbook}
    (h : content.openBook = .ok book) : ∃ more, content = .archive (some book) more := by
  unfold Content.openBook at h
  split at h
  · cases h
  · next kept more =>
    split at h
    · cases h
    · cases h
    · cases h
      exact ⟨more, rfl⟩

theorem opened_ok {content? : Except FileError Content} {book : StoredWorkbook}
    (h : opened p content? = .ok book) :
    ∃ content, content? = .ok content ∧ content.openBook = .ok book := by
  unfold opened at h
  split at h
  · split at h
    · cases h
    · split at h
      · cases h
      · next content =>
        split at h
        · cases h
        · next found hfound =>
          split at h
          · cases h
          · cases h
            exact ⟨content, rfl, hfound⟩
  · cases h

/-- A path under which something can be opened is no obstacle to another workbook. -/
theorem opened_of_openBook {content? : Except FileError Content} {content : Content}
    {before book : StoredWorkbook} (h : opened p content? = .ok before)
    (hopen : content.openBook = .ok book) (hfault : book.fault = none) :
    opened p (.ok content) = .ok book := by
  unfold opened at h ⊢
  split at h
  · next hfile =>
    rw [if_pos hfile]
    split at h
    · cases h
    · next hsuffix =>
      rw [if_neg hsuffix]
      simp only [hopen, hfault]
  · cases h

def loaded (p : Path) (files : FileSystem Content) : Except Error Workbook :=
  match opened p (files.read p) with
  | .error e => .error e
  | .ok book => book.read.mapError (loadFailure p)

theorem result_load (p : Path) (w : Workspace) :
    result (load p) w = (loaded p w.files, w) := by
  unfold load loaded
  rw [result_bind, result_openStored]
  cases opened p (w.files.read p) with
  | error e => rfl
  | ok book => exact result_ofExcept (loadFailure p) book.read

theorem opened_failure {content? : Except FileError Content} {e : Error}
    (h : opened p content? = .error e) :
    (∃ cause, e = .file cause) ∨ ∃ cause, e = .format cause := by
  unfold opened at h
  repeat' split at h
  all_goals cases h
  all_goals simp

/-- A workbook cannot be loaded because its file cannot be read or has the wrong format. -/
theorem loaded_failure {files : FileSystem Content} {e : Error} (h : loaded p files = .error e) :
    (∃ cause, e = .file cause) ∨ ∃ cause, e = .format cause := by
  unfold loaded at h
  split at h
  · next cause hopened =>
    cases h
    exact opened_failure hopened
  · next book hopened =>
    cases hread : book.read with
    | ok whole =>
      rw [hread] at h
      cases h
    | error fault =>
      rw [hread] at h
      cases h
      cases fault <;> exact .inr ⟨_, rfl⟩

/-- A workbook that is loaded is what its file holds, before the records. -/
theorem loaded_ok {files : FileSystem Content} {book : Workbook} (h : loaded p files = .ok book) :
    ∃ stored more, files.read p = .ok (.archive (some stored) more) ∧ stored.read = .ok book := by
  unfold loaded at h
  split at h
  · cases h
  · next stored hopened =>
    obtain ⟨content, hread, hopen⟩ := opened_ok hopened
    obtain ⟨more, rfl⟩ := openBook_ok hopen
    exact ⟨stored, more, hread, mapError_eq_ok.mp h⟩

/-! ## Saving -/

/-- The content that saving a workbook leaves in its file, and its error. -/
def written (book : Workbook) : Content × Except Error Unit :=
  match book.stored with
  | .ok kept => (.workbook kept, .ok ())
  | .error e => (.unfinished, .error (.sheet e))

theorem result_save (p : Path) (book : Workbook) (w : Workspace) :
    result (save p book) w =
      match w.files.writeTarget p with
      | .error e => (.error (.file e), w)
      | .ok place =>
        ((written book).2, { w with files := w.files.set place (.file (written book).1) }) := by
  unfold save written
  rw [result_get_bind, result_ofExcept_bind]
  cases w.files.writeTarget p with
  | error e => rfl
  | ok place => cases book.stored <;> rfl

theorem save_error {book : Workbook} {e : Error} (h : result (save p book) w = (.error e, w')) :
    (w' = w ∧ e.isSaveFailure = false) ∨
      ∃ place cause, w.files.writeTarget p = .ok place ∧ book.stored = .error cause ∧
        e = .sheet cause ∧ w' = { w with files := w.files.set place (.file .unfinished) } := by
  rw [result_save] at h
  split at h
  · cases h
    exact .inl ⟨rfl, rfl⟩
  · next place hplace =>
    unfold written at h
    split at h
    · cases h
    · next cause hcause =>
      cases h
      exact .inr ⟨place, cause, hplace, hcause, rfl, rfl⟩

theorem save_ok {book : Workbook} (h : result (save p book) w = (.ok (), w')) :
    ∃ place kept, w.files.writeTarget p = .ok place ∧ book.stored = .ok kept ∧
      w' = { w with files := w.files.set place (.file (.workbook kept)) } := by
  rw [result_save] at h
  split at h
  · cases h
  · next place hplace =>
    unfold written at h
    split at h
    · next kept hkept =>
      cases h
      exact ⟨place, kept, hplace, hkept, rfl⟩
    · cases h

/-- A workbook that takes the place of one that could be loaded can be loaded if it can be read. -/
theorem loaded_saved {files : FileSystem Content} {place : Location} {book after : Workbook}
    {kept : StoredWorkbook} (hload : loaded p files = .ok book)
    (hplace : files.writeTarget p = .ok place) (hfault : kept.fault = none)
    (hread : kept.read = .ok after) :
    loaded p (files.set place (.file (.workbook kept))) = .ok after := by
  obtain ⟨stored, more, hcontent, -⟩ := loaded_ok hload
  have hnew : (files.set place (.file (.workbook kept))).read p = .ok (.workbook kept) :=
    read_set_target hcontent hplace _
  have hopened : opened p (.ok (Content.workbook kept)) = .ok kept := by
    unfold loaded at hload
    split at hload
    · cases hload
    · next before hbefore => exact opened_of_openBook hbefore rfl hfault
  rw [loaded, hnew, hopened]
  exact mapError_eq_ok.mpr hread

end Workspace

end WorkbookTools
