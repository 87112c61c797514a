import WorkbookTools.Proofs.Request
import WorkbookTools.Proofs.Tool.Run
import WorkbookTools.Proofs.Workspace.ConfinedOperations
import WorkbookTools.Proofs.Workspace.Successes

/-!
# Confinement of runs

Calls of the tools are made one after the other with a policy that has a root. Each call works on
one path: the path to which its request or the current workbook resolves, or the destination that is
chosen for a new workbook. As long as these paths lead to permitted places, the whole run is
confined to them. A path that the policy has checked and seen to the end does; the destination of a
renamed workbook is not checked, and a loop of links hides where a path leads.

* `runs_confined`: runs are confined as far as their calls stay within the permitted places, and
  which calls do.
* `Step.not_confinedRun`: a call that succeeds elsewhere is not confined.
* `renamed_workbook_is_denied`, `loop_leads_outside`: the two ways out.
-/

namespace WorkbookTools.Tool

open WorkbookTools.Action FileSystem Workspace

variable {P : Location → Prop} {policy : PathPolicy} {w : Workspace}

/-! ## Calls -/

def currentPath (policy : PathPolicy) (w : Workspace) : Except Error Path :=
  match w.current with
  | some p => (policy.allow w.files p).mapError .policy
  | none => .error .noCurrentWorkbook

def Call.path? (w : Workspace) : Call → Option Path
  | .openWorkbook input => some (Path.ofText input.path)
  | .createWorkbook input => some (Path.ofText input.path)
  | .getRange _ | .setRange _ | .setCells _ => w.current

/-- The call opens or creates a workbook, and so does not work on the current one. -/
def Call.Selects : Call → Prop
  | .openWorkbook _ | .createWorkbook _ => True
  | .getRange _ | .setRange _ | .setCells _ => False

/-- The path that a call works on. -/
def Call.workingPath (policy : PathPolicy) (defaults : Defaults) (w : Workspace) :
    Call → Except Error Path
  | .openWorkbook input => (policy.allow w.files (Path.ofText input.path)).mapError .policy
  | .createWorkbook input =>
    match input.request defaults.onConflict with
    | .error e => .error (.request e)
    | .ok r => (chosen (some policy) r w.files).map Destination.path
  | .getRange _ | .setRange _ | .setCells _ => currentPath policy w

theorem Call.workingPath_mapContents (g : Location → Content → Content) (defaults : Defaults)
    (call : Call) :
    call.workingPath policy defaults (w.mapContents g) = call.workingPath policy defaults w := by
  have hallow : ∀ p, policy.allow (w.files.mapContents g) p = policy.allow w.files p :=
    PathPolicy.resolvePath_mapContents (some policy) w.files
  have hcurrent : currentPath policy (w.mapContents g) = currentPath policy w := by
    simp only [currentPath, Workspace.mapContents, hallow]
  cases call with
  | openWorkbook input => simp only [workingPath, Workspace.mapContents, hallow]
  | createWorkbook input => simp only [workingPath, Workspace.mapContents, chosen_mapContents]
  | getRange input => exact hcurrent
  | setRange input => exact hcurrent
  | setCells input => exact hcurrent

theorem confinedRun_select (p : Path) (w : Workspace) : ConfinedRun P (select p) w := by
  have hmodify : ConfinedRun P (modify fun w => { w with current := some p } : Action PUnit) w := by
    constructor
    · rw [result_modify]
      exact ⟨GrowsTo.refl w.files, fun _ _ => .same _, rfl, OpensWithin.refl P _ _⟩
    · intro g hg
      rfl
  exact hmodify.bind fun _ next _ => confinedRun_report _ next

theorem holdsWorkbook_select {p : Path} {place : Location} {next : Workspace}
    (h : HoldsWorkbook w.files place) (hselect : result (select p) w = (.ok (), next)) :
    HoldsWorkbook next.files place := by
  have hreported := HoldsWorkbook.report (w := { w with current := some p }) h
    [⟨.info, "excelauto.mcp.session", "Current workbook: " ++ p.text⟩]
  rw [show next = (result (report _) { w with current := some p }).2 from
    (congrArg Prod.snd hselect).symm]
  exact hreported

theorem result_requireCurrent (w : Workspace) :
    result requireCurrent w =
      (match w.current with
        | some p => .ok p
        | none => .error .noCurrentWorkbook, w) := by
  unfold requireCurrent
  rw [result_get_bind]
  cases w.current <;> rfl

theorem confinedRun_requireCurrent (w : Workspace) : ConfinedRun P requireCurrent w := by
  constructor
  · rw [result_requireCurrent]
    exact ConfinedChange.refl P w
  · intro g hg
    rw [result_requireCurrent, result_requireCurrent]
    rfl

/-- A call on the current workbook is confined if the operation that it requests is. -/
theorem confinedRun_current {α ρ : Type} {request : Path → Except RequestError ρ}
    {operation : ρ → Action α}
    (hoperation : ∀ p r, w.current = some p → request p = .ok r →
      ConfinedRun P (operation r) w) :
    ConfinedRun P (do
      let r ← ofExcept .request (request (← requireCurrent))
      operation r) w := by
  refine (confinedRun_requireCurrent w).bind fun p next hnext => ?_
  rw [result_requireCurrent] at hnext
  cases hcurrent : w.current with
  | none =>
    rw [hcurrent] at hnext
    cases hnext
  | some current =>
    rw [hcurrent] at hnext
    cases hnext
    refine (ConfinedRun.ofExcept .request (request p) w).bind fun r next hnext => ?_
    rw [result_ofExcept] at hnext
    obtain ⟨hrequest, rfl⟩ := Prod.mk.inj hnext
    exact hoperation p r hcurrent (mapError_eq_ok.mp hrequest)

theorem confinedRun_run_current {policy : Option PathPolicy} {defaults : Defaults} {call : Call}
    (hcall : ¬ call.Selects) (hw : ∀ p, w.current = some p → WorksWithin P policy p w) :
    ConfinedRun P (run policy defaults call) w := by
  cases call with
  | openWorkbook input => exact absurd trivial hcall
  | createWorkbook input => exact absurd trivial hcall
  | getRange input =>
    refine ConfinedRun.map _ (confinedRun_current fun p r hp hrequest => ?_)
    refine confinedRun_readRange ?_
    rw [GetRangeInput.request_path hrequest]
    exact hw p hp
  | setRange input =>
    refine ConfinedRun.map _ (confinedRun_current fun p r hp hrequest => ?_)
    refine confinedRun_writeRange ?_
    rw [SetRangeInput.request_path hrequest]
    exact hw p hp
  | setCells input =>
    refine ConfinedRun.map _ (confinedRun_current fun p r hp hrequest => ?_)
    refine confinedRun_setCells ?_
    rw [SetCellsInput.request_path hrequest]
    exact hw p hp

/-- A call is confined to the places to which its path leads. -/
theorem confinedRun_run {defaults : Defaults} {call : Call}
    (hw : ∀ p, call.workingPath policy defaults w = .ok p → LeadsWithin P w.files p) :
    ConfinedRun P (run (some policy) defaults call) w := by
  have hcurrent : call.workingPath policy defaults w = currentPath policy w →
      ∀ p, w.current = some p → WorksWithin P (some policy) p w := by
    intro hpath p hp resolved hresolved
    refine hw resolved ?_
    rw [hpath, currentPath, hp]
    exact mapError_eq_ok.mpr hresolved
  cases call with
  | openWorkbook input =>
    have hworks : WorksWithin P (some policy) (Path.ofText input.path) w := by
      intro resolved hresolved
      exact hw resolved (by rw [Call.workingPath]; exact mapError_eq_ok.mpr hresolved)
    refine ConfinedRun.map _ ((confinedRun_openWorkbook hworks).bind fun opened next _ => ?_)
    exact (confinedRun_select _ next).bind fun _ last _ => ConfinedRun.pure _ last
  | createWorkbook input =>
    refine ConfinedRun.map _ ((ConfinedRun.ofExcept _ _ w).bind fun r next hnext => ?_)
    rw [result_ofExcept] at hnext
    obtain ⟨hrequest, rfl⟩ := Prod.mk.inj hnext
    have hcreate : ConfinedRun P (createWorkbook (some policy) r) w := by
      refine confinedRun_createWorkbook fun target htarget => hw target.path ?_
      simp only [Call.workingPath, mapError_eq_ok.mp hrequest, htarget, Except.map]
    refine hcreate.bind fun created next _ => ?_
    exact (confinedRun_select _ next).bind fun _ last _ => ConfinedRun.pure _ last
  | getRange input => exact confinedRun_run_current id (hcurrent rfl)
  | setRange input => exact confinedRun_run_current id (hcurrent rfl)
  | setCells input => exact confinedRun_run_current id (hcurrent rfl)

theorem currentPath_ok {p resolved : Path} (hp : w.current = some p)
    (h : PathPolicy.resolvePath (some policy) w.files p = .ok resolved) :
    currentPath policy w = .ok resolved := by
  rw [currentPath, hp]
  exact mapError_eq_ok.mpr h

theorem current_ok {α ρ : Type} {request : Path → Except RequestError ρ}
    {operation : ρ → Action α} {a : α} {next : Workspace} (h : result (do
      let r ← ofExcept .request (request (← requireCurrent))
      operation r) w = (.ok a, next)) :
    ∃ current r, w.current = some current ∧ request current = .ok r ∧
      result (operation r) w = (.ok a, next) := by
  obtain ⟨current, seen, hcurrent, h⟩ := bind_ok.mp h
  rw [result_requireCurrent] at hcurrent
  cases hp : w.current with
  | none =>
    rw [hp] at hcurrent
    cases hcurrent
  | some p =>
    rw [hp] at hcurrent
    obtain ⟨hsame, rfl⟩ := Prod.mk.inj hcurrent
    obtain rfl := Except.ok.inj hsame
    obtain ⟨r, hrequest, h⟩ := ofExcept_bind_ok.mp h
    exact ⟨p, r, rfl, hrequest, h⟩

/-! ## Steps -/

namespace Step

variable {s : Step}

def workingPath (policy : PathPolicy) (s : Step) : Except Error Path :=
  s.call.workingPath policy s.defaults s.workspace

/-- The path that a step works on leads to the places only. -/
def StaysWithin (P : Location → Prop) (policy : PathPolicy) (s : Step) : Prop :=
  ∀ p, s.workingPath policy = .ok p → LeadsWithin P s.workspace.files p

/-- The step creates a workbook under another name than the one asked for. -/
def Renames (policy : PathPolicy) (s : Step) : Prop :=
  ∃ input r resolved, s.call = .createWorkbook input ∧
    input.request s.defaults.onConflict = .ok r ∧ r.onConflict = .rename ∧
    policy.allow s.workspace.files r.path = .ok resolved ∧
    s.workspace.files.pathExists resolved = .ok true

/-- A loop of links hides where the path leads that the step is about. -/
def MeetsLoop (policy : PathPolicy) (s : Step) : Prop :=
  ∃ p, s.call.path? s.workspace = some p ∧ policy.MeetsLoop s.workspace.files p

/-- Unless it renames, a step works on the path that it is about, which the policy has allowed. -/
theorem allowed_of_not_renames {resolved : Path} (hworking : s.workingPath policy = .ok resolved)
    (hrenames : ¬ s.Renames policy) :
    ∃ p, s.call.path? s.workspace = some p ∧
      policy.allow s.workspace.files p = .ok resolved := by
  obtain ⟨w, defaults, call⟩ := s
  have hcurrent : currentPath policy w = .ok resolved →
      ∃ p, w.current = some p ∧ policy.allow w.files p = .ok resolved := by
    intro h
    unfold currentPath at h
    split at h
    · next p hp => exact ⟨p, hp, mapError_eq_ok.mp h⟩
    · cases h
  cases call with
  | openWorkbook input => exact ⟨_, rfl, mapError_eq_ok.mp hworking⟩
  | createWorkbook input =>
    simp only [workingPath, Call.workingPath] at hworking
    cases hrequest : input.request defaults.onConflict with
    | error e =>
      rw [hrequest] at hworking
      cases hworking
    | ok r =>
      rw [hrequest] at hworking
      obtain ⟨target, htarget, rfl⟩ := map_eq_ok.mp hworking
      obtain ⟨found, hfound, hdestination⟩ := chosen_ok htarget
      have hallow : policy.allow w.files r.path = .ok found := hfound
      rcases destination_path hdestination with hsame | ⟨hrename, hpresent⟩
      · rw [CreateInput.request_path hrequest, ← hsame] at hallow
        exact ⟨_, rfl, hallow⟩
      · exact absurd ⟨input, r, found, rfl, hrequest, hrename, hallow,
          mapError_eq_ok.mp hpresent⟩ hrenames
  | getRange input => exact hcurrent hworking
  | setRange input => exact hcurrent hworking
  | setCells input => exact hcurrent hworking

/-- There are two ways out of the places that a policy with a root permits: a workbook created under
another name, and a loop of links. -/
theorem staysWithin_or (hroot : policy.root ≠ none) (s : Step) :
    s.StaysWithin (policy.Permits s.workspace.files) policy ∨ s.Renames policy ∨
      s.MeetsLoop policy := by
  by_cases hrenames : s.Renames policy
  · exact .inr (.inl hrenames)
  by_cases hloop : s.MeetsLoop policy
  · exact .inr (.inr hloop)
  refine .inl fun p hp => ?_
  obtain ⟨request, hrequest, hallow⟩ := allowed_of_not_renames hp hrenames
  rcases PathPolicy.leadsWithin_of_allow hroot hallow with hmeets | hwithin
  · exact absurd ⟨request, hrequest, hmeets⟩ hloop
  · exact hwithin

theorem StaysWithin.confinedRun (hs : s.StaysWithin P policy) :
    ConfinedRun P (run (some policy) s.defaults s.call) s.workspace :=
  confinedRun_run hs

theorem growsTo (policy : PathPolicy) (s : Step) :
    GrowsTo s.workspace.files (s.result policy).2.files := by
  have hstays : s.StaysWithin (fun _ => True) policy := fun _ _ _ _ => trivial
  exact hstays.confinedRun.change.grows

/-- A step that succeeds works on a file, which is there afterwards. -/
theorem result_ok {answer : Answer} {next : Workspace}
    (h : s.result policy = (.ok answer, next)) :
    ∃ p place content, s.workingPath policy = .ok p ∧ s.workspace.files.MayLeadTo p place ∧
      next.files.entryAt place = some (.file content) := by
  have hgrows := Step.growsTo policy s
  rw [h] at hgrows
  have hkept : (∃ p, s.workingPath policy = .ok p ∧ s.workspace.files.isFile p = .ok true) →
      ∃ p place content, s.workingPath policy = .ok p ∧ s.workspace.files.MayLeadTo p place ∧
        next.files.entryAt place = some (.file content) := by
    rintro ⟨p, hp, hfile⟩
    obtain ⟨place, old, hlead, hold⟩ := isFile_ok hfile
    obtain ⟨content, hcontent⟩ := hgrows.file place old hold
    exact ⟨p, place, content, hp, hlead.mayLeadTo, hcontent⟩
  obtain ⟨w, defaults, call⟩ := s
  unfold Step.result at h
  cases call with
  | openWorkbook input =>
    obtain ⟨opened, hrun, -⟩ := map_ok.mp h
    obtain ⟨_, _, hopen, -⟩ := bind_ok.mp hrun
    obtain ⟨resolved, hresolved, hfile, -⟩ := existing_bind_ok hopen
    exact hkept ⟨resolved, mapError_eq_ok.mpr hresolved, hfile⟩
  | createWorkbook input =>
    obtain ⟨created, hrun, -⟩ := map_ok.mp h
    obtain ⟨r, hrequest, hcreate⟩ := ofExcept_bind_ok.mp hrun
    obtain ⟨_, made, hmade, hselect⟩ := bind_ok.mp hcreate
    obtain ⟨_, last, hlast, hend⟩ := bind_ok.mp hselect
    cases hend
    obtain ⟨target, place, htarget, -, hlead, hholds⟩ := createWorkbook_ok hmade
    obtain ⟨book, more, hentry⟩ := holdsWorkbook_select hholds hlast
    refine ⟨target.path, place, _, ?_, hlead, hentry⟩
    simp only [workingPath, Call.workingPath, hrequest, htarget, Except.map]
  | getRange input =>
    obtain ⟨_, hrun, -⟩ := map_ok.mp h
    obtain ⟨current, r, hcurrent, hrequest, hrun⟩ := current_ok hrun
    obtain ⟨resolved, hresolved, hfile, -⟩ := existing_bind_ok hrun
    rw [GetRangeInput.request_path hrequest] at hresolved
    exact hkept ⟨resolved, currentPath_ok hcurrent hresolved, hfile⟩
  | setRange input =>
    obtain ⟨_, hrun, -⟩ := map_ok.mp h
    obtain ⟨current, r, hcurrent, hrequest, hrun⟩ := current_ok hrun
    obtain ⟨resolved, hresolved, hfile, -⟩ := existing_bind_ok hrun
    rw [SetRangeInput.request_path hrequest] at hresolved
    exact hkept ⟨resolved, currentPath_ok hcurrent hresolved, hfile⟩
  | setCells input =>
    obtain ⟨_, hrun, -⟩ := map_ok.mp h
    obtain ⟨current, r, hcurrent, hrequest, hrun⟩ := current_ok hrun
    obtain ⟨resolved, hresolved, hfile, -⟩ := existing_bind_ok hrun
    rw [SetCellsInput.request_path hrequest] at hresolved
    exact hkept ⟨resolved, currentPath_ok hcurrent hresolved, hfile⟩

/-- A step that succeeds without Excel leaves a workbook where its path leads. -/
theorem leaves_workbook {answer : Answer} {next : Workspace}
    (hexcel : s.workspace.excel.Unavailable) (h : s.result policy = (.ok answer, next)) :
    ∃ p place, s.workingPath policy = .ok p ∧ s.workspace.files.MayLeadTo p place ∧
      HoldsWorkbook next.files place := by
  obtain ⟨w, defaults, call⟩ := s
  unfold Step.result at h
  have hcurrent : ∀ current, w.current = some current → Leaves (some policy) current w next →
      ∃ p place, currentPath policy w = .ok p ∧ w.files.MayLeadTo p place ∧
        HoldsWorkbook next.files place := by
    rintro current hp ⟨resolved, place, hresolved, hlead, hholds⟩
    exact ⟨resolved, place, currentPath_ok hp hresolved, hlead, hholds⟩
  cases call with
  | openWorkbook input =>
    obtain ⟨opened, hrun, -⟩ := map_ok.mp h
    obtain ⟨_, seen, hopen, hselect⟩ := bind_ok.mp hrun
    obtain ⟨_, last, hlast, hend⟩ := bind_ok.mp hselect
    cases hend
    obtain ⟨resolved, place, hresolved, hlead, hholds⟩ := openWorkbook_leaves hexcel hopen
    exact ⟨resolved, place, mapError_eq_ok.mpr hresolved, hlead, holdsWorkbook_select hholds hlast⟩
  | createWorkbook input =>
    obtain ⟨created, hrun, -⟩ := map_ok.mp h
    obtain ⟨r, hrequest, hcreate⟩ := ofExcept_bind_ok.mp hrun
    obtain ⟨_, made, hmade, hselect⟩ := bind_ok.mp hcreate
    obtain ⟨_, last, hlast, hend⟩ := bind_ok.mp hselect
    cases hend
    obtain ⟨target, place, htarget, -, hlead, hholds⟩ := createWorkbook_ok hmade
    refine ⟨target.path, place, ?_, hlead, holdsWorkbook_select hholds hlast⟩
    simp only [workingPath, Call.workingPath, hrequest, htarget, Except.map]
  | getRange input =>
    obtain ⟨_, hrun, -⟩ := map_ok.mp h
    obtain ⟨current, r, hp, hrequest, hrun⟩ := current_ok hrun
    have hleaves := readRange_leaves hrun
    rw [GetRangeInput.request_path hrequest] at hleaves
    exact hcurrent current hp hleaves
  | setRange input =>
    obtain ⟨_, hrun, -⟩ := map_ok.mp h
    obtain ⟨current, r, hp, hrequest, hrun⟩ := current_ok hrun
    have hleaves := writeRange_leaves hrun
    rw [SetRangeInput.request_path hrequest] at hleaves
    exact hcurrent current hp hleaves
  | setCells input =>
    obtain ⟨_, hrun, -⟩ := map_ok.mp h
    obtain ⟨current, r, hp, hrequest, hrun⟩ := current_ok hrun
    have hleaves := setCells_leaves hexcel hrun
    rw [SetCellsInput.request_path hrequest] at hleaves
    exact hcurrent current hp hleaves

/-- A step that succeeds without Excel is not confined to places where its file is not: with a text
in place of that file it would not have left the same. -/
theorem not_confinedRun {answer : Answer} {next : Workspace} {p : Path} {place : Location}
    (hexcel : s.workspace.excel.Unavailable)
    (hlog : ∀ f, s.workspace.logFile = some f → f.place ≠ place)
    (h : s.result policy = (.ok answer, next)) (hp : s.workingPath policy = .ok p)
    (hlead : s.workspace.files.MayLeadTo p place) (hplace : ¬ P place) :
    ¬ ConfinedRun P (run (some policy) s.defaults s.call) s.workspace := by
  intro hconfined
  let g := contentAt place (Content.text "")
  have hshows : Shows P s.workspace.logFile g := by
    intro other content hother
    have hne : other ≠ place := by
      rintro rfl
      rcases hother with hP | ⟨f, hf, hsame⟩
      · exact hplace hP
      · exact hlog f hf hsame
    exact if_neg hne
  let masked : Step := ⟨s.workspace.mapContents g, s.defaults, s.call⟩
  have hmasked : masked.workspace.excel.Unavailable := hexcel
  have hresult : masked.result policy = (.ok answer, next.mapContents g) := by
    have hblind := hconfined.blind g hshows
    unfold Step.result at h ⊢
    rw [hblind, h]
  obtain ⟨q, target, hq, htarget, book, more, hentry⟩ := leaves_workbook hmasked hresult
  have hsame : p = q := by
    rw [workingPath, Call.workingPath_mapContents] at hq
    exact Except.ok.inj (hp.symm.trans hq)
  have hlinks := sameLinks_mapContents g s.workspace.files
  obtain rfl : target = place := by
    rw [← hsame] at htarget
    exact (htarget.of_sameLinks hlinks.symm).unique hlead
  have hmapped : (next.files.entryAt target).map (Entry.map (g target)) =
      some (.file (.archive (some book) more)) := by
    rw [← entryAt_mapContents]
    exact hentry
  cases hold : next.files.entryAt target with
  | none =>
    rw [hold] at hmapped
    cases hmapped
  | some e =>
    rw [hold] at hmapped
    cases e with
    | file content =>
      have htext : g target content = Content.text "" := if_pos rfl
      rw [Option.map_some, Entry.map, htext] at hmapped
      cases hmapped
    | directory => cases hmapped
    | link text => cases hmapped

end Step

/-! ## Runs -/

theorem growsTo_of_mem_steps {calls : List (Defaults × Call)} {s : Step}
    (hs : s ∈ steps policy calls w) : GrowsTo w.files s.workspace.files := by
  induction calls generalizing w with
  | nil => cases hs
  | cons first rest ih =>
    obtain ⟨defaults, call⟩ := first
    rcases List.mem_cons.mp hs with rfl | hs
    · exact GrowsTo.refl _
    · exact (Step.growsTo policy ⟨w, defaults, call⟩).trans (ih hs)

/-- A run is confined to the places: it changes no other file, it goes the same way whatever the
other files hold, and Excel opens no workbook elsewhere. -/
def Confined (P : Location → Prop) (policy : PathPolicy) (calls : List (Defaults × Call))
    (start : Workspace) : Prop :=
  ConfinedChange P start (runAll policy calls start).2 ∧
    ∀ g, Shows P start.logFile g → runAll policy calls (start.mapContents g) =
      ((runAll policy calls start).1, (runAll policy calls start).2.mapContents g)

/-- A run whose steps stay within the places is confined to them. -/
theorem confined_of_steps {calls : List (Defaults × Call)}
    (hsteps : ∀ s ∈ steps policy calls w, s.StaysWithin P policy) : Confined P policy calls w := by
  induction calls generalizing w with
  | nil => exact ⟨ConfinedChange.refl P w, fun _ _ => rfl⟩
  | cons first rest ih =>
    obtain ⟨defaults, call⟩ := first
    have hfirst := (hsteps _ List.mem_cons_self).confinedRun
    obtain ⟨hchange, hblind⟩ := ih fun s hs => hsteps s (List.mem_cons_of_mem _ hs)
    refine ⟨hfirst.change.trans hchange, fun g hg => ?_⟩
    have hanswer := hfirst.blind g hg
    -- the log keeps its file, so the rest of the run is blind to the same contents
    have hlog : ((Step.mk w defaults call).result policy).2.logFile = w.logFile :=
      hfirst.change.logFile_eq
    have hrest := hblind g (by rw [hlog]; exact hg)
    simp only [runAll, Step.result] at hanswer hrest ⊢
    rw [hanswer]
    simp only [hrest]

/-- Runs under a policy with a root are confined to the permitted places if all their steps stay
within them. A step leaves them by renaming or through a loop of links only, and one that succeeds
stays within them if and only if the file that it works on is permitted. Without Excel, and unless
the log is that file, such a step is confined to the permitted places in no other case. -/
theorem runs_confined (policy : PathPolicy) (hroot : policy.root ≠ none)
    (calls : List (Defaults × Call)) (start : Workspace) :
    ((∀ s ∈ steps policy calls start, s.StaysWithin (policy.Permits start.files) policy) →
      Confined (policy.Permits start.files) policy calls start) ∧
    ∀ s ∈ steps policy calls start,
      (s.StaysWithin (policy.Permits start.files) policy ∨ s.Renames policy ∨
        s.MeetsLoop policy) ∧
      ∀ answer next, s.result policy = (.ok answer, next) → ∃ p place content,
        s.workingPath policy = .ok p ∧ s.workspace.files.MayLeadTo p place ∧
        next.files.entryAt place = some (.file content) ∧
        (s.StaysWithin (policy.Permits start.files) policy ↔ policy.Permits start.files place) ∧
        (s.workspace.excel.Unavailable →
          (∀ f, s.workspace.logFile = some f → f.place ≠ place) →
          (ConfinedRun (policy.Permits start.files) (run (some policy) s.defaults s.call)
            s.workspace ↔ policy.Permits start.files place)) := by
  refine ⟨confined_of_steps, fun s hs => ⟨?_, fun answer next hresult => ?_⟩⟩
  · have hgrows := growsTo_of_mem_steps hs
    rcases s.staysWithin_or hroot with hwithin | hout
    · exact .inl fun p hp => (hwithin p hp).mono fun place => PathPolicy.Permits.of_growsTo hgrows
    · exact .inr hout
  · obtain ⟨p, place, content, hp, hlead, hentry⟩ := Step.result_ok hresult
    have hwithin : policy.Permits start.files place →
        s.StaysWithin (policy.Permits start.files) policy := by
      intro hplace other hother
      obtain rfl : p = other := Except.ok.inj (hp.symm.trans hother)
      exact (leadsWithin_iff hlead).mpr hplace
    refine ⟨p, place, content, hp, hlead, hentry, ⟨fun hstays => hstays p hp place hlead, hwithin⟩,
      fun hexcel hlog => ⟨fun hconfined => ?_, fun hplace => (hwithin hplace).confinedRun⟩⟩
    by_contra hplace
    exact Step.not_confinedRun hexcel hlog hresult hp hlead hplace hconfined

/-! ## One directory, two conflicts -/

/-- The policy that confines paths to a directory and denies numbered names. -/
def numberedDenied : PathPolicy := ⟨some (Path.ofText "/work"), ["*_1.xlsx"]⟩

/-- An empty session beside a directory where a name is taken. -/
def takenWorkspace : Workspace :=
  .ofFiles ⟨[(["work"], .directory), (["work", "book.xlsx"], .file (.text "taken"))]⟩ .absent

/-- The call that creates a workbook of that name. -/
def createTaken (onConflict : ConflictPolicy) : Defaults × Call :=
  (.standard, .createWorkbook ⟨"book.xlsx", some onConflict⟩)

/-- As long as no workbook is renamed, the run is confined. -/
theorem overwriting_is_confined :
    numberedDenied.root ≠ none ∧
      Confined (numberedDenied.Permits takenWorkspace.files) numberedDenied
        [createTaken .overwrite, createTaken .skip] takenWorkspace := by
  have hroot : numberedDenied.root ≠ none := by simp [numberedDenied]
  obtain ⟨hconfined, hsteps⟩ := runs_confined numberedDenied hroot
    [createTaken .overwrite, createTaken .skip] takenWorkspace
  refine ⟨hroot, hconfined fun s hs => ?_⟩
  rcases (hsteps s hs).1 with hwithin | hrenames | hloop
  · exact hwithin
  · exfalso
    obtain ⟨input, r, resolved, hcall, hrequest, hrename, -⟩ := hrenames
    simp only [steps, createTaken, List.mem_cons, List.not_mem_nil, or_false] at hs
    rcases hs with rfl | rfl
    · cases hcall
      cases hrequest
      cases hrename
    · cases hcall
      cases hrequest
      cases hrename
  · obtain ⟨p, -, root, -, hloop⟩ := hloop
    refine absurd hloop (not_runsIntoLoop ?_ _)
    rw [← (growsTo_of_mem_steps hs).sameLinks.linkCount_eq]
    rfl

/-- A workbook that has been renamed stands where none is permitted. -/
theorem renamed_workbook_is_denied :
    let place := ["work", "book_1.xlsx"]
    let last := (runAll numberedDenied [createTaken .rename] takenWorkspace).2
    takenWorkspace.files.entryAt place = none ∧
      (result (load (Path.absolute place)) last).1 = .ok ⟨[("Sheet1", .empty)]⟩ ∧
      ¬ numberedDenied.Permits takenWorkspace.files place := by
  refine ⟨by decide +kernel, by decide +kernel, ?_⟩
  · rintro ⟨root, parts, hroot, hbelow, haccepts, -⟩
    have hmatch := haccepts "*_1.xlsx" (by simp [numberedDenied])
    revert hmatch
    decide +kernel

/-- The policy that confines paths to a directory and denies nothing there. -/
def workOnly : PathPolicy := ⟨some (Path.ofText "/work"), []⟩

/-- An empty session beside a directory with a loop and a link to another directory. -/
def loopedWorkspace : Workspace :=
  .ofFiles
    ⟨[(["work"], .directory), (["work", "loop"], .link "loop"), (["work", "link"], .link "../out"),
      (["out"], .directory),
      (["out", "book.xlsx"], .file (.workbook ⟨[⟨"Sheet1", .empty, .none, none⟩], none⟩))]⟩
    .absent

/-- After a loop the links are not followed any more, so the workbook beside the root is opened. -/
theorem loop_leads_outside :
    let call := Call.openWorkbook ⟨"loop/../link/book.xlsx"⟩
    (runAll workOnly [(.standard, call)] loopedWorkspace).1 =
        [.ok (.opened ⟨Path.ofText "/work/link/book.xlsx", ["Sheet1"]⟩)] ∧
      loopedWorkspace.files.entryAt ["work", "link"] = some (.link "../out") ∧
      ¬ workOnly.Permits loopedWorkspace.files ["out", "book.xlsx"] := by
  refine ⟨by decide +kernel, by decide +kernel, ?_⟩
  rintro ⟨root, parts, hroot, hbelow, -, -⟩
  have hresolved : workOnly.resolvedRoot loopedWorkspace.files = .ok (some ⟨.root, ["work"]⟩) := by
    decide +kernel
  rw [hresolved] at hroot
  cases hroot
  revert hbelow
  decide +revert +kernel

end WorkbookTools.Tool
