import WorkbookTools.Proofs.Workspace.FailedCreation

/-!
# What a creation leaves alone

A creation makes directories and writes one file. Unless files are to be overwritten, it writes where
nothing stood before: a destination is free when it is chosen, and the directories that are made
above it are empty.

* `createAt_ok`: what a creation does if it succeeds.
* `opened_iff`: when a new workbook can be opened.
* `creation_spares_entries`: what stood somewhere still stands there.
-/

namespace WorkbookTools.Workspace

open WorkbookTools.Action FileSystem

variable {w w' w'' : Workspace} {policy : Option PathPolicy} {r : CreateRequest} {p : Path}
  {place : Location} {target : Destination} {title first : String} {answer : CreatedWorkbook}

/-! ## Entries -/

/-- What stood at the place stands there, but for records at the end of the log's file. -/
def KeepsEntry (w w' : Workspace) (place : Location) : Prop :=
  ∀ e, w.files.entryAt place = some e → w'.files.entryAt place = some e ∨
    ∃ f content more, w.logFile = some f ∧ f.place = place ∧ e = .file content ∧
      w'.files.entryAt place = some (.file (content.extended more))

theorem KeepsEntry.of_eq (h : w'.files.entryAt place = w.files.entryAt place) :
    KeepsEntry w w' place :=
  fun _ he => .inl (h.trans he)

theorem SameButDirectories.keepsEntry (h : SameButDirectories w w') (place : Location) :
    KeepsEntry w w' place := by
  intro e he
  rcases h.files.2 place with hsame | ⟨hnone, -⟩
  · exact .inl (hsame.trans he)
  · rw [hnone] at he
    cases he

/-- Records are added to what an entry has become. -/
theorem OnlyLogs.keepsEntry (h : OnlyLogs w' w'') (hlog : w'.logFile = w.logFile)
    (hkeeps : ∀ e, w.files.entryAt place = some e → w'.files.entryAt place = some e) :
    KeepsEntry w w'' place := by
  intro e he
  have hbefore := hkeeps e he
  rcases h.files with hsame | ⟨f, records, hf, hwritten⟩
  · exact .inl (by rw [hsame, hbefore])
  · rw [hwritten]
    rcases writeRecords_cases f records w'.files with hsame | ⟨content, more, hcontent, hset⟩
    · exact .inl (by rw [hsame, hbefore])
    · by_cases hplace : f.place = place
      · subst hplace
        obtain rfl := Option.some.inj (hbefore.symm.trans hcontent)
        refine .inr ⟨f, content, more, hlog ▸ hf, rfl, rfl, ?_⟩
        rw [hset, entryAt_set_self (takesFile_of_file hcontent).ne_root]
      · exact .inl (by rw [hset, entryAt_set_of_ne hplace, hbefore])

/-! ## New workbooks -/

/-- The reader sees a suffix in the name: it has a dot after another character than a dot. -/
def HasReaderSuffix (p : Path) : Prop :=
  ¬ (p.name.toList.dropWhile (· = '.')).all (· ≠ '.')

instance (p : Path) : Decidable (HasReaderSuffix p) := inferInstanceAs (Decidable (¬ _))

/-- A workbook that has been written can be opened if the reader takes the name and the titles. -/
theorem opened_iff (hfile : isFileWorkbook p) {kept book : StoredWorkbook} :
    opened p (.ok (.workbook kept)) = .ok book ↔
      HasReaderSuffix p ∧ kept.fault = none ∧ book = kept := by
  have hopen : (Content.workbook kept).openBook = .ok kept := rfl
  unfold opened HasReaderSuffix
  rw [if_pos hfile]
  split
  · next hsuffix => exact ⟨nofun, fun h => absurd hsuffix h.1⟩
  · next hsuffix =>
    simp only [hopen]
    cases kept.fault with
    | none => exact ⟨fun h => ⟨hsuffix, rfl, (Except.ok.inj h).symm⟩, fun h => by rw [h.2.2]⟩
    | some place => exact ⟨nofun, fun h => absurd h.2.1 nofun⟩

/-- A workbook with one empty sheet stands where the path leads. Records may follow it if the log is
kept in the same file. -/
structure HoldsNew (w : Workspace) (p : Path) (first : String) : Prop where
  entry : ∃ place more, LeadsTo w.files p place ∧ w.files.entryAt place =
    some (.file (.archive (some (Workbook.storedSingle first)) more))
  read : LogElsewhere p w → w.files.read p = .ok (.workbook (Workbook.storedSingle first))

/-- A new workbook can be loaded if the reader takes its name and its title. -/
theorem HoldsNew.loaded_iff (h : HoldsNew w p first) (hfile : isFileWorkbook p)
    (hlog : LogElsewhere p w) :
    loaded p w.files = .ok ⟨[(first, Sheet.empty)]⟩ ↔
      HasReaderSuffix p ∧ ∀ x ∈ first.toList, ¬ Markup.isForeign x := by
  rw [← Workbook.fault_storedSingle, loaded, h.read hlog]
  constructor
  · intro hloaded
    split at hloaded
    · cases hloaded
    · next book hopened =>
      obtain ⟨hsuffix, hfault, -⟩ := (opened_iff hfile).mp hopened
      exact ⟨hsuffix, hfault⟩
  · rintro ⟨hsuffix, hfault⟩
    rw [(opened_iff hfile).mpr ⟨hsuffix, hfault, rfl⟩]
    exact mapError_eq_ok.mpr (Workbook.read_storedSingle first)

/-- Records that are added later leave a new workbook where it is. -/
theorem HoldsNew.of_onlyLogs (hread : w.files.read p = .ok (.workbook (Workbook.storedSingle first)))
    (h : OnlyLogs w w') : HoldsNew w' p first := by
  obtain ⟨more, hmore⟩ := h.read_ok hread
  obtain ⟨place, hlead, hentry⟩ := FileSystem.read_ok hmore
  refine ⟨⟨place, _, hlead, hentry⟩, fun hlog => ?_⟩
  rw [h.read_eq (hlog.of_sameLinks hlead h.sameLinks.symm h.logFile_eq.symm), hread]

/-! ## Creations that succeed -/

/-- What the steps of a creation do to the files if they succeed. -/
structure CreatesAt (w : Workspace) (target : Destination) (title : String)
    (answer : CreatedWorkbook) (w' : Workspace) (made : FileSystem Content) (place : Location)
    (first : String) : Prop where
  answer_eq : answer = ⟨target.path, true, [title], target.warning.toList⟩
  title : Workbook.firstTitle title = .ok first
  makes : makeDirectories target.path.parent.anchor target.path.parent.parts.reverse w.files =
    (.ok (), made)
  writes : made.writeTarget target.path = .ok place
  logs : OnlyLogs { w with
    files := made.set place (.file (.workbook (Workbook.storedSingle first))) } w'

theorem createAt_ok (hworkbook : isFileWorkbook target.path)
    (h : result (createAt target title) w = (.ok answer, w')) :
    ∃ made place first, CreatesAt w target title answer w' made place first := by
  rw [result_createAt hworkbook] at h
  cases hmake : makeDirectories target.path.parent.anchor target.path.parent.parts.reverse
      w.files with
  | mk outcome made =>
    rw [hmake] at h
    cases outcome with
    | error cause => cases h
    | ok _ =>
      simp only at h
      split at h
      · cases h
      · next first hfirst =>
        split at h
        · cases h
        · next place hplace =>
          obtain ⟨hanswer, rfl⟩ := Prod.mk.inj h
          exact ⟨made, place, first, (Except.ok.inj hanswer).symm, hfirst, hmake, hplace,
            OnlyLogs.report _ _⟩

namespace CreatesAt

variable {made : FileSystem Content}

theorem adds (h : CreatesAt w target title answer w' made place first) :
    AddsDirectories w.files made := by
  have hadds := makeDirectories_adds target.path.parent.anchor target.path.parent.parts.reverse
    w.files
  rwa [h.makes] at hadds

theorem holdsNew (h : CreatesAt w target title answer w' made place first) :
    HoldsNew w' target.path first :=
  .of_onlyLogs (read_set_of_writeTarget h.writes _) h.logs

/-- Every entry is kept but for the one at the place of the new file. -/
theorem keepsEntry (h : CreatesAt w target title answer w' made place first) {other : Location}
    (hother : w.files.entryAt other ≠ none → place ≠ other) : KeepsEntry w w' other := by
  refine h.logs.keepsEntry rfl fun e he => ?_
  have hne : place ≠ other := hother (by rw [he]; exact nofun)
  rcases h.adds.2 other with hsame | ⟨hnone, -⟩
  · rw [entryAt_set_of_ne hne, hsame, he]
  · rw [hnone] at he
    cases he

/-- A free path is written to where nothing stood. -/
theorem entryAt_eq_none (h : CreatesAt w target title answer w' made place first)
    (htree : IsTree w.files) (hworkbook : isFileWorkbook target.path)
    (hnames : ∀ name ∈ target.path.parts, IsName name)
    (hfree : w.files.pathExists target.path = .ok false) : w.files.entryAt place = none :=
  entryAt_target_of_absent htree (parts_of_isFileWorkbook hworkbook) hnames hfree h.makes h.writes

/-- The file that replaces another one stands where the path led before. -/
theorem leadsTo (h : CreatesAt w target title answer w' made place first)
    (hthere : w.files.pathExists target.path = .ok true) : LeadsTo w.files target.path place := by
  obtain ⟨q, e, hfound⟩ := found_of_pathExists hthere
  have hlead : LeadsTo w.files target.path q := ⟨.look, by simp, by rw [hfound, Located.end?]⟩
  obtain ⟨hmade, -⟩ := writeTarget_ok h.writes
  obtain rfl : place = q :=
    (hmade.mayLeadTo.of_sameLinks h.adds.1.symm).unique hlead.mayLeadTo
  exact hlead

end CreatesAt

/-- What a creation does if it succeeds: it opens a workbook that is kept, or writes a new one. -/
theorem createWorkbook_cases (h : result (createWorkbook policy r) w = (.ok answer, w')) :
    ∃ target resolved, PathPolicy.resolvePath policy w.files r.path = .ok resolved ∧
      IsDestination w.files r.onConflict resolved target ∧
      ((target.skipped = true ∧ w' = w ∧
          ∃ book, opened target.path (w.files.read target.path) = .ok book ∧
            answer = ⟨target.path, false, book.titles, target.warning.toList⟩) ∨
        (target.skipped = false ∧
          ∃ made place first, CreatesAt w target r.title answer w' made place first)) := by
  rw [result_createWorkbook] at h
  cases hchosen : chosen policy r w.files with
  | error cause =>
    rw [hchosen] at h
    cases h
  | ok target =>
    rw [hchosen] at h
    obtain ⟨resolved, hresolved, hdestination⟩ := chosen_isDestination hchosen
    refine ⟨target, resolved, hresolved, hdestination, ?_⟩
    by_cases hskipped : target.skipped = true
    · simp only [if_pos hskipped] at h
      obtain ⟨hanswer, hsame⟩ := Prod.mk.inj h
      obtain ⟨book, hbook, rfl⟩ := map_eq_ok.mp hanswer
      exact .inl ⟨hskipped, hsame.symm, book, hbook, rfl⟩
    · simp only [if_neg hskipped] at h
      exact .inr ⟨Bool.eq_false_iff.mpr hskipped, createAt_ok hdestination.workbook h⟩

/-- In a file system in which all entries stand in directories, a creation keeps every entry, whether
it succeeds or fails; only with the policy to overwrite may the file to which the requested path
leads be another one. The log may grow in its own file. If the requested path exists and is to be
kept, nothing changes and nothing is created. In all other cases a creation that succeeds leaves a
workbook with one empty sheet where the path of the answer leads. It loads as such if the reader
takes its name and its title. -/
theorem creation_spares_entries (policy : Option PathPolicy) (r : CreateRequest) (w : Workspace)
    (htree : IsTree w.files) :
    let outcome := (result (createWorkbook policy r) w).1
    let w' := (result (createWorkbook policy r) w).2
    (∀ place, KeepsEntry w w' place ∨
      r.onConflict = .overwrite ∧ ∃ resolved,
        PathPolicy.resolvePath policy w.files r.path = .ok resolved ∧
          LeadsTo w.files resolved place) ∧
    ∀ answer, outcome = .ok answer → ∃ resolved,
      PathPolicy.resolvePath policy w.files r.path = .ok resolved ∧
      (r.onConflict = .skip ∧ w.files.pathExists resolved = .ok true →
        w' = w ∧ answer.created = false) ∧
      (¬ (r.onConflict = .skip ∧ w.files.pathExists resolved = .ok true) →
        answer.created = true ∧ ∃ first, Workbook.firstTitle r.title = .ok first ∧
          HoldsNew w' answer.path first ∧
          (LogElsewhere answer.path w' →
            (loaded answer.path w'.files = .ok ⟨[(first, Sheet.empty)]⟩ ↔
              HasReaderSuffix answer.path ∧ ∀ x ∈ first.toList, ¬ Markup.isForeign x))) := by
  intro outcome w'
  have hresult : result (createWorkbook policy r) w = (outcome, w') := rfl
  cases houtcome : outcome with
  | error e =>
    rw [houtcome] at hresult
    exact ⟨fun place => .inl ((SameButDirectories.of_error hresult).keepsEntry place),
      fun _ => nofun⟩
  | ok answer =>
    rw [houtcome] at hresult
    obtain ⟨target, resolved, hresolved, hdestination, ⟨hskipped, hsame, book, -, rfl⟩ |
      ⟨hwritten, made, place, first, hcreates⟩⟩ := createWorkbook_cases hresult
    · refine ⟨fun place => .inl (.of_eq (by rw [hsame])), fun other hother => ?_⟩
      cases hother
      exact ⟨resolved, hresolved, fun _ => ⟨hsame, rfl⟩,
        absurd (hdestination.skipped_iff.mp hskipped)⟩
    · have hnot : ¬ (r.onConflict = .skip ∧ w.files.pathExists resolved = .ok true) := by
        rw [← hdestination.skipped_iff, hwritten]
        exact nofun
      refine ⟨fun other => ?_, fun found hfound => ?_⟩
      · rcases hdestination.free hwritten with hfree | ⟨hoverwrite, hpath, hthere⟩
        · refine .inl (hcreates.keepsEntry fun hsome => ?_)
          rintro rfl
          exact hsome (hcreates.entryAt_eq_none htree hdestination.workbook hdestination.names hfree)
        · by_cases hother : place = other
          · subst hother
            subst hpath
            exact .inr ⟨hoverwrite, _, hresolved, hcreates.leadsTo hthere⟩
          · exact .inl (hcreates.keepsEntry fun _ => hother)
      · cases hfound
        have hholds := hcreates.holdsNew
        rw [hcreates.answer_eq]
        exact ⟨resolved, hresolved, fun h => absurd h hnot, fun _ => ⟨rfl, first, hcreates.title,
          hholds, hholds.loaded_iff hdestination.workbook⟩⟩

/-! ## A new workbook beside another one -/

/-- A workspace with one file in a directory. -/
def occupiedWorkspace : Workspace :=
  ofFiles ⟨[(["data"], .directory), (["data", "a.xlsx"], .file (.text "kept"))]⟩ .absent

theorem isTree_occupied : IsTree occupiedWorkspace.files :=
  isTree_of_entries (by decide +kernel)

/-- The file that exists is kept, and the new workbook stands beside it. -/
theorem renamed_workbook_spares_file :
    let r : CreateRequest := ⟨Path.ofText "/data/a.xlsx", .rename, "First"⟩
    let w' := (result (createWorkbook none r) occupiedWorkspace).2
    KeepsEntry occupiedWorkspace w' ["data", "a.xlsx"] ∧
      HoldsNew w' (Path.ofText "/data/a_1.xlsx") "First" := by
  intro r w'
  obtain ⟨hkeeps, hnew⟩ := creation_spares_entries none r occupiedWorkspace isTree_occupied
  have hanswer : (result (createWorkbook none r) occupiedWorkspace).1.map (·.path) =
      .ok (Path.ofText "/data/a_1.xlsx") := by decide +kernel
  obtain ⟨answer, houtcome, hpath⟩ := map_eq_ok.mp hanswer
  obtain ⟨resolved, -, -, hfresh⟩ := hnew answer houtcome
  obtain ⟨-, first, hfirst, hholds, -⟩ := hfresh nofun
  have htitle : Workbook.firstTitle r.title = .ok "First" := by decide +kernel
  obtain rfl := Except.ok.inj (htitle.symm.trans hfirst)
  rw [hpath] at hholds
  have hrename : r.onConflict ≠ .overwrite := nofun
  exact ⟨(hkeeps ["data", "a.xlsx"]).resolve_right fun h => hrename h.1, hholds⟩

end WorkbookTools.Workspace
