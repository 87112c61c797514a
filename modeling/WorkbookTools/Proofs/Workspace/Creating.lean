import WorkbookTools.Creation
import WorkbookTools.Proofs.Policy
import WorkbookTools.Proofs.Workspace.Log

/-!
# How a workbook is created

The destination of a new workbook is a function of the files. Then the missing directories above it
are created, and the workbook is saved there.

Main statement: `createWorkbook_ok`, what is known after a workbook has been created.
-/

namespace WorkbookTools.Workspace

open WorkbookTools.Action FileSystem

variable {w w' : Workspace} {policy : Option PathPolicy}

/-! ## The destination -/

/-- The destination of a new workbook, as a function of the files. -/
def chosen (policy : Option PathPolicy) (r : CreateRequest) (files : FileSystem Content) :
    Except Error Destination :=
  match PathPolicy.resolvePath policy files r.path with
  | .error e => .error (.policy e)
  | .ok resolved =>
    match checkCreatable resolved with
    | .error e => .error (.format e)
    | .ok () => destination (pathPresent files) .naming r.onConflict resolved

theorem chosen_ok {r : CreateRequest} {files : FileSystem Content} {target : Destination}
    (h : chosen policy r files = .ok target) :
    ∃ resolved, PathPolicy.resolvePath policy files r.path = .ok resolved ∧
      destination (pathPresent files) .naming r.onConflict resolved = .ok target := by
  unfold chosen at h
  split at h
  · cases h
  · next resolved hresolved =>
    split at h
    · cases h
    · exact ⟨resolved, hresolved, h⟩

theorem pathPresent_mapContents (g : Location → Content → Content) (files : FileSystem Content) :
    pathPresent (files.mapContents g) = pathPresent files := by
  funext q
  rw [pathPresent, pathPresent, pathExists_mapContents]

theorem chosen_mapContents (g : Location → Content → Content) (r : CreateRequest)
    (files : FileSystem Content) :
    chosen policy r (files.mapContents g) = chosen policy r files := by
  simp only [chosen, PathPolicy.resolvePath_mapContents, pathPresent_mapContents]

theorem result_chooseDestination (onConflict : ConflictPolicy) (p : Path) (w : Workspace) :
    result (chooseDestination onConflict p) w =
      (destination (pathPresent w.files) .naming onConflict p, w) := by
  unfold chooseDestination
  rw [result_get_bind, result_ofExcept]
  cases destination (pathPresent w.files) .naming onConflict p <;> rfl

/-- The destination is the resolved path, unless a workbook there makes another name be chosen. -/
theorem destination_path {ε : Type} {present : Path → Except ε Bool} {fail : NamingError → ε}
    {onConflict : ConflictPolicy} {p : Path} {target : Destination}
    (h : destination present fail onConflict p = .ok target) :
    target.path = p ∨ onConflict = .rename ∧ present p = .ok true := by
  unfold destination at h
  cases hpresent : present p with
  | error e =>
    rw [hpresent] at h
    cases h
  | ok isPresent =>
    rw [hpresent] at h
    cases isPresent with
    | false =>
      cases h
      exact .inl rfl
    | true =>
      cases onConflict with
      | rename => exact .inr ⟨rfl, rfl⟩
      | overwrite =>
        cases h
        exact .inl rfl
      | skip =>
        cases h
        exact .inl rfl

/-! ## The new file -/

theorem result_ensureDirectory (p : Path) (w : Workspace) :
    result (ensureDirectory p) w =
      ((w.files.makeDirectories p.parent.anchor p.parent.parts.reverse).1.mapError .file,
        { w with
          files := (w.files.makeDirectories p.parent.anchor p.parent.parts.reverse).2 }) := by
  unfold ensureDirectory
  rw [result_get_bind]
  cases hmake : w.files.makeDirectories p.parent.anchor p.parent.parts.reverse with
  | mk outcome files =>
    simp only [hmake]
    exact result_ofExcept Error.file outcome

/-- A workbook stands at the place; records of the log may follow it in its file. -/
def HoldsWorkbook (files : FileSystem Content) (place : Location) : Prop :=
  ∃ book more, files.entryAt place = some (.file (.archive (some book) more))

theorem HoldsWorkbook.writeRecords {files : FileSystem Content} {place : Location}
    (h : HoldsWorkbook files place) (f : LogFile) (records : List LogRecord) :
    HoldsWorkbook (Workspace.writeRecords f records files) place := by
  obtain ⟨book, more, hentry⟩ := h
  rcases writeRecords_cases f records files with hsame | ⟨content, text, hlog, hset⟩
  · rw [hsame]
    exact ⟨book, more, hentry⟩
  · by_cases hplace : f.place = place
    · rw [hplace, hentry] at hlog
      cases hlog
      rw [hset, hplace]
      exact ⟨book, more ++ text, entryAt_set_self (takesFile_of_file hentry).ne_root _⟩
    · rw [hset]
      exact ⟨book, more, by rw [entryAt_set_of_ne hplace, hentry]⟩

theorem HoldsWorkbook.report {place : Location} (h : HoldsWorkbook w.files place)
    (records : List LogRecord) :
    HoldsWorkbook (result (Workspace.report records) w).2.files place := by
  rw [result_report]
  cases w.logFile with
  | none => exact h
  | some f => exact h.writeRecords f records

theorem writeNewWorkbook_ok {p : Path} {title : String}
    (h : result (writeNewWorkbook p title) w = (.ok (), w')) :
    ∃ place, LeadsTo w.files p place ∧ HoldsWorkbook w'.files place := by
  unfold writeNewWorkbook at h
  obtain ⟨_, -, h⟩ := ofExcept_bind_ok.mp h
  obtain ⟨book, -, h⟩ := ofExcept_bind_ok.mp h
  obtain ⟨place, kept, hplace, -, rfl⟩ := save_ok h
  obtain ⟨hlead, hold⟩ := writeTarget_ok hplace
  exact ⟨place, hlead, kept, "", entryAt_set_self hold.ne_root _⟩

theorem openStored_ok {p : Path} {book : StoredWorkbook}
    (h : result (openStored p) w = (.ok book, w')) :
    w' = w ∧ ∃ place, LeadsTo w.files p place ∧ HoldsWorkbook w.files place := by
  rw [result_openStored] at h
  obtain ⟨hopened, rfl⟩ := Prod.mk.inj h
  obtain ⟨content, hread, hbook⟩ := opened_ok hopened
  obtain ⟨place, hlead, hentry⟩ := read_ok hread
  obtain ⟨more, rfl⟩ := openBook_ok hbook
  exact ⟨rfl, place, hlead, book, more, hentry⟩

/-- A workbook that has been created, or kept, stands where the path of the answer leads. -/
theorem createWorkbook_ok {r : CreateRequest} {created : CreatedWorkbook}
    (h : result (createWorkbook policy r) w = (.ok created, w')) :
    ∃ target place, chosen policy r w.files = .ok target ∧ created.path = target.path ∧
      w.files.MayLeadTo target.path place ∧ HoldsWorkbook w'.files place := by
  unfold createWorkbook at h
  rw [result_bind, result_resolvePath] at h
  cases hresolve : PathPolicy.resolvePath policy w.files r.path with
  | error e =>
    rw [hresolve] at h
    cases h
  | ok resolved =>
    rw [hresolve] at h
    obtain ⟨_, hcheck, h⟩ := ofExcept_bind_ok.mp h
    rw [result_bind, result_chooseDestination] at h
    cases htarget : destination (pathPresent w.files) .naming r.onConflict resolved with
    | error e =>
      rw [htarget] at h
      cases h
    | ok target =>
      have hchosen : chosen policy r w.files = .ok target := by
        rw [chosen, hresolve]
        simp only [hcheck, htarget]
      simp only [htarget, result_ite] at h
      split at h
      · obtain ⟨book, next, hopen, hend⟩ := bind_ok.mp h
        obtain ⟨rfl, place, hlead, hholds⟩ := openStored_ok hopen
        cases hend
        exact ⟨target, place, hchosen, rfl, hlead.mayLeadTo, hholds⟩
      · obtain ⟨_, made, hensure, hrest⟩ := bind_ok.mp h
        obtain ⟨_, written, hwrite, hend⟩ := bind_ok.mp hrest
        obtain ⟨_, last, hinform, hpure⟩ := bind_ok.mp hend
        cases hpure
        obtain ⟨place, hlead, hholds⟩ := writeNewWorkbook_ok hwrite
        have hlinks : SameLinks made.files w.files := by
          rw [result_ensureDirectory] at hensure
          rw [← (Prod.mk.inj hensure).2]
          exact (makeDirectories_adds _ _ w.files).1.symm
        have hreported := hholds.report
          [⟨.info, "excelauto.mcp.sheet_ops", "Created workbook: " ++ target.path.text⟩]
        have hlast : w' = (result (report _) written).2 := (congrArg Prod.snd hinform).symm
        refine ⟨target, place, hchosen, rfl, hlead.mayLeadTo.of_sameLinks hlinks, ?_⟩
        rw [hlast]
        exact hreported

end WorkbookTools.Workspace
