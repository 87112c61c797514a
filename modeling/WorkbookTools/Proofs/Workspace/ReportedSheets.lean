import WorkbookTools.Opening
import WorkbookTools.Proofs.Range.Write
import WorkbookTools.Proofs.Workspace.CreationFrames

/-!
# The sheets that a creation reports

A creation that writes a workbook reports the title that was asked for; one that keeps a workbook
reports the titles in it. What is listed afterwards comes from the file in both cases.

* `listedSheets_of_existing`: what is listed of a workbook that is found.
* `resolved_again`: the path of the answer is resolved to itself or refused.
* `reported_sheets_listed_iff`: when the reported sheets are the ones that are listed.
-/

namespace WorkbookTools

open WorkbookTools.Action FileSystem

namespace StoredWorkbook

theorem titles_of_readSheets {stored : List StoredSheet} {sheets : List (String × Sheet)}
    (h : readSheets stored = .ok sheets) : sheets.map (·.1) = stored.map (·.title) := by
  induction stored generalizing sheets with
  | nil =>
    cases h
    rfl
  | cons first rest ih =>
    unfold readSheets at h
    obtain ⟨loaded, -, h⟩ := except_bind_ok.mp h
    obtain ⟨others, hothers, h⟩ := except_bind_ok.mp h
    cases h
    exact congrArg _ (ih hothers)

/-- A workbook that is read has the titles of its file. -/
theorem titles_of_read {kept : StoredWorkbook} {book : Workbook} (h : kept.read = .ok book) :
    book.titles = kept.titles := by
  obtain ⟨sheets, hsheets, hbook⟩ := except_bind_ok.mp h
  cases hbook
  exact titles_of_readSheets hsheets

theorem sheet_of_mem {kept : StoredWorkbook} {title : String} (h : title ∈ kept.titles) :
    ∃ s, kept.sheet title = .ok s := by
  obtain ⟨s, hs, htitle⟩ := List.mem_map.mp h
  obtain ⟨found, hfound⟩ := Option.isSome_iff_exists.mp
    (List.find?_isSome (p := (·.title = title)).mpr ⟨s, hs, by simpa using htitle⟩)
  exact ⟨found, by rw [sheet, hfound]⟩

end StoredWorkbook

namespace Workspace

variable {w w' : Workspace} {policy : Option PathPolicy} {r : CreateRequest} {p found : Path}
  {place : Location} {target : Destination} {first : String} {answer : CreatedWorkbook}

/-! ## Listing -/

/-- The sheets of the answer to a request to open a workbook. -/
def listedSheets (policy : Option PathPolicy) (p : Path) (w : Workspace) :
    Except Error (List String) :=
  (result (openWorkbook policy p) w).1.map (·.sheets)

theorem checkExtension_ok (hfile : isFileWorkbook p) : checkExtension p = .ok () :=
  if_pos (.inl (of_decide_eq_true hfile))

/-- The sheets of a workbook that is found are listed as they are in its file. -/
theorem listedSheets_of_existing (hfound : existing policy w.files p = .ok found)
    (hfile : isFileWorkbook found) :
    listedSheets policy p w = (opened found (w.files.read found)).map (·.titles) := by
  unfold listedSheets openWorkbook
  rw [result_bind, result_existingWorkbook, hfound]
  simp only [checkExtension_ok hfile, if_pos hfile, result_bind, result_ofExcept, mapError_ok,
    result_openStored]
  cases opened found (w.files.read found) <;> rfl

theorem listedSheets_of_refused {e : PolicyError}
    (h : PathPolicy.resolvePath policy w.files p = .error e) :
    listedSheets policy p w = .error (.policy e) := by
  have hexisting : existing policy w.files p = .error (.policy e) := by
    rw [existing, h]
  unfold listedSheets openWorkbook
  rw [result_bind, result_existingWorkbook, hexisting]
  rfl

/-- A path that is resolved to itself is found if there is something to read. -/
theorem existing_of_read {content : Content}
    (hresolved : PathPolicy.resolvePath policy w.files p = .ok p)
    (hread : w.files.read p = .ok content) : existing policy w.files p = .ok p := by
  have hlook : w.files.lookUp p = .ok (some (.file content)) := by
    unfold FileSystem.read at hread
    unfold lookUp
    split at hread
    · next hfound =>
      cases hread
      rw [hfound]
    · cases hread
    · cases hread
    · cases hread
  simp only [existing, hresolved, pathExists, isFile, hlook, Except.map, Option.isSome_some]

/-- Whatever opens or loads the workbook finds a sheet under the title. -/
def FindsSheet (files : FileSystem Content) (p : Path) (title : String) : Prop :=
  ∃ kept, opened p (files.read p) = .ok kept ∧ (∃ s, kept.sheet title = .ok s) ∧
    ∀ book, loaded p files = .ok book → ∃ s, book.sheet title = .ok s

theorem findsSheet_of_opened {kept : StoredWorkbook} {title : String}
    (hopened : opened p (w.files.read p) = .ok kept) (htitle : title ∈ kept.titles) :
    FindsSheet w.files p title := by
  refine ⟨kept, hopened, StoredWorkbook.sheet_of_mem htitle, fun book hload => ?_⟩
  rw [loaded, hopened] at hload
  have hread : kept.read = .ok book := mapError_eq_ok.mp hload
  rw [← StoredWorkbook.titles_of_read hread] at htitle
  exact Workbook.exists_sheet_of_mem htitle

theorem findsSheet_of_listed {titles : List String} (hfound : existing policy w.files p = .ok p)
    (hfile : isFileWorkbook p) (h : listedSheets policy p w = .ok titles) :
    ∀ title ∈ titles, FindsSheet w.files p title := by
  rw [listedSheets_of_existing hfound hfile] at h
  obtain ⟨kept, hopened, rfl⟩ := map_eq_ok.mp h
  exact fun title htitle => findsSheet_of_opened hopened htitle

/-! ## The path of the answer -/

/-- What the path is resolved to is the path itself, unless the policy refuses it. -/
def ResolvedAsIs (policy : Option PathPolicy) (files : FileSystem Content) (p : Path) : Prop :=
  ∀ q, PathPolicy.resolvePath policy files p = .ok q → q = p

theorem CreatesAt.sameLinks {title : String} {made : FileSystem Content}
    (h : CreatesAt w target title answer w' made place first) : SameLinks w.files w'.files :=
  (h.adds.1.trans (sameLinks_set_file (writeTarget_ok h.writes).2 _)).trans h.logs.sameLinks

/-- A path that is not numbered is resolved to itself again. A numbered one may be refused, but it is
not resolved to another one unless it is a link. -/
theorem resolved_again {resolved : Path} {files files' : FileSystem Content} (hloops : LinksEnd files)
    (hlinks : SameLinks files files')
    (hresolved : PathPolicy.resolvePath policy files p = .ok resolved)
    (hdestination : IsDestination files r.onConflict resolved target)
    (hlink : r.onConflict = .rename → files.linkAt target.path.parts = none) :
    ResolvedAsIs policy files' target.path ∧
      (r.onConflict ≠ .rename ∨ policy = none →
        PathPolicy.resolvePath policy files' target.path = .ok target.path) := by
  rcases hdestination.path with hpath | ⟨hrename, n, hn⟩
  · have hagain := PathPolicy.resolvePath_again hloops hlinks hresolved
    rw [← hpath] at hagain
    refine ⟨fun q hq => ?_, fun _ => hagain⟩
    rw [hagain] at hq
    exact (Except.ok.inj hq).symm
  · obtain ⟨directory, rfl, hend⟩ := PathPolicy.resolvePath_isEnd hloops hresolved
    obtain ⟨name, hplace⟩ : ∃ name, target.path = Path.absolute (directory.dropLast ++ [name]) :=
      ⟨_, hn⟩
    have hname : IsName name := hdestination.names name (by simp [hplace, Path.absolute])
    have hnolink : files.linkAt (directory.dropLast ++ [name]) = none := by
      have hnone := hlink hrename
      rwa [hplace] at hnone
    have hend' := (hend.dropLast.snoc hname hnolink).of_sameLinks hlinks
    rw [hplace]
    refine ⟨fun q hq => PathPolicy.resolvePath_end hend' hq, fun hpolicy => ?_⟩
    obtain rfl := hpolicy.resolve_left (absurd hrename)
    exact mapError_eq_ok.mpr hend'.resolve_eq

/-! ## The titles of the answer -/

/-- A new workbook is listed with the title that was asked for just if the reader takes its name and
the title, and the title is not the initial one in other letters. -/
theorem HoldsNew.listed_iff {title : String} (h : HoldsNew w p first) (hfile : isFileWorkbook p)
    (hlog : LogElsewhere p w) (hresolved : PathPolicy.resolvePath policy w.files p = .ok p)
    (hfirst : Workbook.firstTitle title = .ok first) :
    listedSheets policy p w = .ok [title] ↔ HasReaderSuffix p ∧
      (title = Workbook.initialTitle ∨
        ¬ Text.isSameLower Workbook.initialTitle.toList title.toList) ∧
      ∀ x ∈ title.toList, ¬ Markup.isForeign x := by
  have hread := h.read hlog
  rw [listedSheets_of_existing (existing_of_read hresolved hread) hfile, hread, map_eq_ok,
    ← Workbook.firstTitle_eq_self_iff hfirst]
  simp only [opened_iff hfile, Workbook.fault_storedSingle]
  constructor
  · rintro ⟨book, ⟨hsuffix, hclean, rfl⟩, htitles⟩
    obtain rfl : first = title := List.singleton_inj.mp htitles
    exact ⟨hsuffix, rfl, hclean⟩
  · rintro ⟨hsuffix, rfl, hclean⟩
    exact ⟨_, ⟨hsuffix, hclean, rfl⟩, rfl⟩

/-- After a creation there is a file to read under the path of its answer. -/
theorem createWorkbook_read (h : result (createWorkbook policy r) w = (.ok answer, w'))
    (hlog : LogElsewhere answer.path w') :
    isFileWorkbook answer.path ∧ ∃ content, w'.files.read answer.path = .ok content := by
  obtain ⟨target, resolved, -, hdestination, ⟨-, rfl, book, hopened, rfl⟩ |
    ⟨-, made, place, first, hcreates⟩⟩ := createWorkbook_cases h
  · exact ⟨hdestination.workbook, (opened_ok hopened).imp fun _ hcontent => hcontent.1⟩
  · rw [hcreates.answer_eq] at hlog ⊢
    exact ⟨hdestination.workbook, _, hcreates.holdsNew.read hlog⟩

/-- When the sheets that a creation has reported are listed under a path that is resolved to itself
again. -/
theorem reported_again_iff (h : result (createWorkbook policy r) w = (.ok answer, w'))
    (hlog : LogElsewhere answer.path w')
    (hagain : PathPolicy.resolvePath policy w'.files answer.path = .ok answer.path) :
    listedSheets policy answer.path w' = .ok answer.sheets ↔
      (answer.created = true → HasReaderSuffix answer.path ∧
        (r.title = Workbook.initialTitle ∨
          ¬ Text.isSameLower Workbook.initialTitle.toList r.title.toList) ∧
        ∀ x ∈ r.title.toList, ¬ Markup.isForeign x) := by
  obtain ⟨hfile, content, hread⟩ := createWorkbook_read h hlog
  obtain ⟨target, resolved, -, -, ⟨-, rfl, book, hopened, rfl⟩ |
    ⟨-, made, place, first, hcreates⟩⟩ := createWorkbook_cases h
  · rw [listedSheets_of_existing (existing_of_read hagain hread) hfile, hopened]
    exact ⟨fun _ => nofun, fun _ => rfl⟩
  · rw [hcreates.answer_eq] at hlog hagain hfile ⊢
    rw [hcreates.holdsNew.listed_iff hfile hlog hagain hcreates.title]
    exact ⟨fun hreadable _ => hreadable, fun hreadable => hreadable rfl⟩

/-- A path that is not numbered is resolved to itself again after a creation. A numbered one may be
refused, but it is not resolved to another one unless it is a link. -/
theorem createWorkbook_resolvedAsIs (h : result (createWorkbook policy r) w = (.ok answer, w'))
    (hloops : LinksEnd w.files)
    (hlink : r.onConflict = .rename → w.files.linkAt answer.path.parts = none) :
    ResolvedAsIs policy w'.files answer.path ∧
      (r.onConflict ≠ .rename ∨ policy = none →
        PathPolicy.resolvePath policy w'.files answer.path = .ok answer.path) := by
  obtain ⟨target, resolved, hresolved, hdestination, ⟨-, rfl, book, -, rfl⟩ |
    ⟨-, made, place, first, hcreates⟩⟩ := createWorkbook_cases h
  · exact resolved_again hloops (SameLinks.refl _) hresolved hdestination hlink
  · rw [hcreates.answer_eq] at hlink ⊢
    exact resolved_again hloops hcreates.sameLinks hresolved hdestination hlink

/-- After a creation the sheets that it has reported are listed under the path of its answer just if
the policy lets this path through and, for a workbook that was written, the reader sees the suffix of
its name, the title is not the initial one in other letters, and no character of it is foreign to
markup. Then every sheet that was reported is found. This is so for every path that is resolved to
itself or refused; without loops of links these are all but numbered paths that are links, and only
numbered ones can be refused. -/
theorem reported_sheets_listed_iff (h : result (createWorkbook policy r) w = (.ok answer, w'))
    (hlog : LogElsewhere answer.path w') :
    (LinksEnd w.files → (r.onConflict = .rename → w.files.linkAt answer.path.parts = none) →
      ResolvedAsIs policy w'.files answer.path ∧
        (r.onConflict ≠ .rename ∨ policy = none →
          PathPolicy.resolvePath policy w'.files answer.path = .ok answer.path)) ∧
    (ResolvedAsIs policy w'.files answer.path →
      (listedSheets policy answer.path w' = .ok answer.sheets ↔
        PathPolicy.resolvePath policy w'.files answer.path = .ok answer.path ∧
        (answer.created = true → HasReaderSuffix answer.path ∧
          (r.title = Workbook.initialTitle ∨
            ¬ Text.isSameLower Workbook.initialTitle.toList r.title.toList) ∧
          ∀ x ∈ r.title.toList, ¬ Markup.isForeign x)) ∧
      (listedSheets policy answer.path w' = .ok answer.sheets →
        ∀ title ∈ answer.sheets, FindsSheet w'.files answer.path title)) := by
  refine ⟨createWorkbook_resolvedAsIs h, fun hself => ?_⟩
  cases hagain : PathPolicy.resolvePath policy w'.files answer.path with
  | error e =>
    rw [listedSheets_of_refused hagain]
    exact ⟨⟨nofun, fun hboth => nomatch hboth.1⟩, nofun⟩
  | ok q =>
    obtain rfl : q = answer.path := hself q hagain
    obtain ⟨hfile, content, hread⟩ := createWorkbook_read h hlog
    refine ⟨(reported_again_iff h hlog hagain).trans
      ⟨fun hreadable => ⟨rfl, hreadable⟩, And.right⟩, fun hlist => ?_⟩
    exact findsSheet_of_listed (existing_of_read hagain hread) hfile hlist

/-! ## Two titles -/

/-- A request for a workbook in a directory that exists. -/
def titledRequest (title : String) : CreateRequest := ⟨Path.ofText "/data/new.xlsx", .rename, title⟩

/-- The answer to this request. -/
def titledAnswer (title : String) : CreatedWorkbook :=
  ⟨Path.ofText "/data/new.xlsx", true, [title], []⟩

/-- The title of the request is listed. -/
theorem other_title_is_listed :
    let w' := (result (createWorkbook none (titledRequest "First")) directoryWorkspace).2
    listedSheets none (titledAnswer "First").path w' = .ok ["First"] := by
  intro w'
  have hanswer : (result (createWorkbook none (titledRequest "First")) directoryWorkspace).1 =
      .ok (titledAnswer "First") := by decide +kernel
  have hself : PathPolicy.resolvePath none w'.files (titledAnswer "First").path =
      .ok (titledAnswer "First").path := by decide +kernel
  have hnone : w'.logFile.isNone := by decide +kernel
  have hlog : LogElsewhere (titledAnswer "First").path w' := by
    intro f hf
    rw [hf] at hnone
    cases hnone
  obtain ⟨-, hlisted⟩ := reported_sheets_listed_iff (result_eq hanswer) hlog
  have hasis : ResolvedAsIs none w'.files (titledAnswer "First").path := fun q hq =>
    (Except.ok.inj (hself.symm.trans hq)).symm
  have hmarkup : "First".toList.any Markup.isForeign = false := by decide +kernel
  refine (hlisted hasis).1.mpr ⟨hself, fun _ => ⟨by decide +kernel, .inr (by decide +kernel),
    fun x hx => ?_⟩⟩
  exact List.any_eq_false.mp hmarkup x hx

/-- The initial title in small letters is reported, but another title is listed. -/
theorem initial_title_in_small_letters_is_not_listed :
    let outcome := result (createWorkbook none (titledRequest "sheet")) directoryWorkspace
    outcome.1 = .ok (titledAnswer "sheet") ∧
      listedSheets none (titledAnswer "sheet").path outcome.2 = .ok ["sheet1"] := by
  decide +kernel

end Workspace

end WorkbookTools
