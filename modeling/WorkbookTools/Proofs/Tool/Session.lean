import WorkbookTools.Proofs.Tool.Confinement
import WorkbookTools.Proofs.Workspace.Preservation

/-!
# Sessions

A session is a row of calls, each with a policy and defaults of its own. Its state is the current
path: opening or creating a workbook selects the path that the answer reports, and nothing else
does. The other three calls leave the current path alone and work on the file to which it leads.

* `Turn.current_eq`: what one call makes of the current path.
* `staysWithCurrent`: a call on the current workbook reads and writes the one file that the current
  path resolves to. Only records of the log go elsewhere, into the log's own file.
* `session_follows_selections`: after any row of calls the current path is the one selected last.
-/

namespace WorkbookTools.Tool

open WorkbookTools.Action FileSystem Workspace

variable {w : Workspace}

/-- A call with the policy and the defaults under which it is made. -/
structure Turn where
  policy : Option PathPolicy
  defaults : Defaults
  call : Call

def Turn.result (t : Turn) (w : Workspace) : Except Error Answer × Workspace :=
  Action.result (run t.policy t.defaults t.call) w

/-- Makes calls one after the other, and goes on after one that has failed. -/
def session : List Turn → Workspace → List (Except Error Answer) × Workspace
  | [], w => ([], w)
  | t :: rest, w =>
    let (outcome, next) := t.result w
    let (outcomes, last) := session rest next
    (outcome :: outcomes, last)

/-- The path that an answer reports for a workbook that has been opened or created. A workbook that
was there already and is kept counts too. -/
def Answer.selectedPath? : Answer → Option Path
  | .opened r => some r.path
  | .created r => some r.path
  | .range _ | .written _ | .edited _ => none

def selectedPath? : Except Error Answer → Option Path
  | .ok answer => answer.selectedPath?
  | .error _ => none

/-- The path that the last successful call to open or create a workbook has reported. -/
def lastSelected (outcomes : List (Except Error Answer)) : Option Path :=
  (outcomes.filterMap selectedPath?).getLast?

theorem session_append (earlier later : List Turn) (w : Workspace) :
    session (earlier ++ later) w =
      ((session earlier w).1 ++ (session later (session earlier w).2).1,
        (session later (session earlier w).2).2) := by
  induction earlier generalizing w with
  | nil => rfl
  | cons t rest ih => simp only [List.cons_append, session, ih]

theorem lastSelected_cons (x : Except Error Answer) (outcomes : List (Except Error Answer)) :
    lastSelected (x :: outcomes) = (lastSelected outcomes).or (selectedPath? x) := by
  unfold lastSelected
  cases hx : selectedPath? x with
  | none => rw [List.filterMap_cons_none hx, Option.or_none]
  | some p =>
    rw [List.filterMap_cons_some hx, List.getLast?_cons]
    cases (outcomes.filterMap selectedPath?).getLast? <;> rfl

/-! ## Selecting -/

theorem result_select (p : Path) (w : Workspace) :
    result (select p) w =
      result (inform "excelauto.mcp.session" ("Current workbook: " ++ p.text))
        { w with current := some p } := rfl

theorem select_current {p : Path} {outcome : Except Error Unit} {next : Workspace}
    (h : result (select p) w = (outcome, next)) : outcome = .ok () ∧ next.current = some p := by
  rw [result_select, inform, result_report] at h
  obtain ⟨rfl, rfl⟩ := Prod.mk.inj h
  exact ⟨rfl, rfl⟩

/-- What has become of the current path after a call that selects. -/
def SelectsOrFails {α : Type} (path : α → Path) (w : Workspace)
    (x : Except Error α × Workspace) : Prop :=
  match x with
  | (.ok a, next) => next.current = some (path a)
  | (.error _, next) => next.current = w.current

/-- An action that leaves the current path alone, followed by the selection of a path of its
result. -/
theorem selects_or_fails {α : Type} {x : Action α} (path : α → Path) (hx : Keeps SameCurrent x)
    (w : Workspace) :
    SelectsOrFails path w (result (do let a ← x; select (path a); pure a) w) := by
  have hkept := hx w
  rw [result_bind]
  cases hresult : result x w with
  | mk outcome next =>
    rw [hresult] at hkept
    cases outcome with
    | error e => exact hkept
    | ok a =>
      simp only [result_bind]
      cases hselect : result (select (path a)) next with
      | mk selected last =>
        obtain ⟨rfl, hcurrent⟩ := select_current hselect
        exact hcurrent

theorem sameCurrent_createWorkbook (policy : Option PathPolicy) (r : CreateRequest) :
    Keeps SameCurrent (Workspace.createWorkbook policy r) :=
  tolerant_sameCurrent.createWorkbook sameCurrent_ensureDirectory policy r

/-- A call that works on the current workbook keeps what its operations keep. -/
theorem keeps_current_run {R : Workspace → Workspace → Prop} (hR : Tolerant R)
    {policy : Option PathPolicy} {defaults : Defaults} {call : Call} (hcall : ¬ call.Selects) :
    Keeps R (run policy defaults call) := by
  have hrequire : Keeps R requireCurrent := hR.of_reads result_requireCurrent
  cases call with
  | openWorkbook input => exact absurd trivial hcall
  | createWorkbook input => exact absurd trivial hcall
  | getRange input =>
    refine Keeps.map _ (hR.bind hrequire fun p => ?_)
    exact hR.bind (hR.ofExcept _ _) fun r => hR.readRange policy r
  | setRange input =>
    refine Keeps.map _ (hR.bind hrequire fun p => ?_)
    exact hR.bind (hR.ofExcept _ _) fun r => hR.writeRange policy r
  | setCells input =>
    refine Keeps.map _ (hR.bind hrequire fun p => ?_)
    exact hR.bind (hR.ofExcept _ _) fun r => hR.setCells policy r

/-- A call that selects has selected the path of its answer if it succeeds, and none if it fails. -/
theorem Turn.current_of_selects {t : Turn} (ht : t.call.Selects) (w : Workspace) :
    (∃ answer p, (t.result w).1 = .ok answer ∧ answer.selectedPath? = some p ∧
      (t.result w).2.current = some p) ∨
    ∃ e, (t.result w).1 = .error e ∧ (t.result w).2.current = w.current := by
  obtain ⟨policy, defaults, call⟩ := t
  have hanswer : ∀ {α : Type} {x : Action α} (path : α → Path) {answer : α → Answer},
      (∀ a, (answer a).selectedPath? = some (path a)) → SelectsOrFails path w (Action.result x w) →
      (∃ a p, (Action.result (answer <$> x) w).1 = .ok a ∧ a.selectedPath? = some p ∧
        (Action.result (answer <$> x) w).2.current = some p) ∨
      ∃ e, (Action.result (answer <$> x) w).1 = .error e ∧
        (Action.result (answer <$> x) w).2.current = w.current := by
    intro α x path answer hpath hx
    rw [result_map]
    cases hresult : Action.result x w with
    | mk outcome next =>
      rw [hresult] at hx
      cases outcome with
      | ok a => exact .inl ⟨answer a, path a, rfl, hpath a, hx⟩
      | error e => exact .inr ⟨e, rfl, hx⟩
  cases call with
  | openWorkbook input =>
    refine hanswer OpenedWorkbook.path (fun _ => rfl) ?_
    exact selects_or_fails OpenedWorkbook.path (tolerant_sameCurrent.openWorkbook policy _) w
  | createWorkbook input =>
    refine hanswer CreatedWorkbook.path (fun _ => rfl) ?_
    have hcreate : Keeps SameCurrent (do
        let request ← ofExcept .request (input.request defaults.onConflict)
        createWorkbook policy request) :=
      tolerant_sameCurrent.bind (tolerant_sameCurrent.ofExcept _ _)
        fun r => sameCurrent_createWorkbook policy r
    have hselects := selects_or_fails CreatedWorkbook.path hcreate w
    rwa [bind_assoc] at hselects
  | getRange input => exact ht.elim
  | setRange input => exact ht.elim
  | setCells input => exact ht.elim

/-! ## The current workbook -/

/-- The place to which the current path leads, as the policy resolves it. -/
def CurrentFile (policy : Option PathPolicy) (w : Workspace) (place : Location) : Prop :=
  ∃ p resolved, w.current = some p ∧ PathPolicy.resolvePath policy w.files p = .ok resolved ∧
    w.files.MayLeadTo resolved place

theorem CurrentFile.unique {policy : Option PathPolicy} {place place' : Location}
    (h : CurrentFile policy w place) (h' : CurrentFile policy w place') : place = place' := by
  obtain ⟨p, resolved, hp, hresolved, hlead⟩ := h
  obtain ⟨p', resolved', hp', hresolved', hlead'⟩ := h'
  obtain rfl : p = p' := Option.some.inj (hp.symm.trans hp')
  obtain rfl : resolved = resolved' := Except.ok.inj (hresolved.symm.trans hresolved')
  exact hlead.unique hlead'

/-- An entry stays, or it is the log's own file and grows by records. -/
def SameOrLogged (logFile : Option LogFile) (place : Location)
    (before after : Option (Entry Content)) : Prop :=
  after = before ∨ ∃ f content more, logFile = some f ∧ f.place = place ∧
    before = some (.file content) ∧ after = some (.file (content.extended more))

/-- What a call does that works on the current workbook. -/
structure StaysWithCurrent (t : Turn) (w : Workspace) : Prop where
  current : (t.result w).2.current = w.current
  /-- No other entry is written. -/
  writes : ∀ place, ¬ CurrentFile t.policy w place →
    SameOrLogged w.logFile place (w.files.entryAt place) ((t.result w).2.files.entryAt place)
  /-- No other file is read: whatever they hold, the call takes the same course. -/
  reads : ∀ g, Shows (CurrentFile t.policy w) w.logFile g →
    t.result (w.mapContents g) = ((t.result w).1, (t.result w).2.mapContents g)
  /-- Excel is asked to open no other workbook. -/
  opens : OpensWithin (CurrentFile t.policy w) w.files w.excel.events (t.result w).2.excel.events
  /-- There is one such file at most. -/
  unique : ∀ place place', CurrentFile t.policy w place → CurrentFile t.policy w place' →
    place = place'
  /-- Without a current path the call is refused, and nothing changes. -/
  refused : w.current = none →
    t.result w = (.error .noCurrentWorkbook, w) ∧ Error.noCurrentWorkbook.category = .value

theorem sameOrLogged_of_kept {logFile : Option LogFile} {place : Location}
    {before after : Option (Entry Content)} (h : Kept logFile place before after)
    (hold : after = some .directory → before = some .directory) :
    SameOrLogged logFile place before after := by
  cases h with
  | same => exact .inl rfl
  | newDirectory => cases hold rfl
  | logged f content more hlog hplace => exact .inr ⟨f, content, more, hlog, hplace, rfl, rfl⟩

theorem result_requireCurrent_bind {α : Type} (hw : w.current = none) (f : Path → Action α) :
    Action.result (requireCurrent >>= f) w = (.error .noCurrentWorkbook, w) := by
  rw [result_bind, result_requireCurrent, hw]

theorem Turn.refused {t : Turn} (ht : ¬ t.call.Selects) (hw : w.current = none) :
    t.result w = (.error .noCurrentWorkbook, w) := by
  obtain ⟨policy, defaults, call⟩ := t
  cases call with
  | openWorkbook input => exact absurd trivial ht
  | createWorkbook input => exact absurd trivial ht
  | getRange input =>
    have hrun := result_requireCurrent_bind hw fun p => do
      let r ← ofExcept .request (input.request p)
      readRange policy r
    exact (result_map _ _).trans (by rw [runGetRange, hrun]; rfl)
  | setRange input =>
    have hrun := result_requireCurrent_bind hw fun p => do
      let r ← ofExcept .request (input.request p defaults.autoFormula)
      writeRange policy r
    exact (result_map _ _).trans (by rw [runSetRange, hrun]; rfl)
  | setCells input =>
    have hrun := result_requireCurrent_bind hw fun p => do
      let r ← ofExcept .request (input.request p defaults.engine defaults.autoFormula)
      setCells policy r
    exact (result_map _ _).trans (by rw [runSetCells, hrun]; rfl)

theorem staysWithCurrent {t : Turn} (ht : ¬ t.call.Selects) (w : Workspace) :
    StaysWithCurrent t w := by
  have hconfined : ConfinedRun (CurrentFile t.policy w) (run t.policy t.defaults t.call) w :=
    confinedRun_run_current ht fun p hp resolved hresolved place hplace =>
      ⟨p, resolved, hp, hresolved, hplace⟩
  exact
    { current := keeps_current_run tolerant_sameCurrent ht w
      writes := fun place hplace => sameOrLogged_of_kept
        (hconfined.change.kept place hplace) (keeps_current_run tolerant_noNewDirectory ht w place)
      reads := hconfined.blind
      opens := hconfined.change.opens
      unique := fun _ _ => CurrentFile.unique
      refused := fun hw => ⟨Turn.refused ht hw, rfl⟩ }

/-! ## Rows of calls -/

theorem Turn.selectedPath?_eq_none {t : Turn} (ht : ¬ t.call.Selects) (w : Workspace) :
    selectedPath? (t.result w).1 = none := by
  obtain ⟨policy, defaults, call⟩ := t
  have hanswer : ∀ {α : Type} (answer : α → Answer) (x : Action α),
      (∀ a, (answer a).selectedPath? = none) →
      selectedPath? (Action.result (answer <$> x) w).1 = none := by
    intro α answer x hnone
    rw [result_map]
    cases (Action.result x w).1 with
    | ok a => exact hnone a
    | error e => rfl
  cases call with
  | openWorkbook input => exact absurd trivial ht
  | createWorkbook input => exact absurd trivial ht
  | getRange input => exact hanswer Answer.range _ fun _ => rfl
  | setRange input => exact hanswer Answer.written _ fun _ => rfl
  | setCells input => exact hanswer Answer.edited _ fun _ => rfl

/-- After a call the current path is the one that its answer reports, or the one before it. -/
theorem Turn.current_eq (t : Turn) (w : Workspace) :
    (t.result w).2.current = (selectedPath? (t.result w).1).or w.current := by
  by_cases ht : t.call.Selects
  · rcases t.current_of_selects ht w with ⟨answer, p, hok, hpath, hcurrent⟩ | ⟨e, herror, hcurrent⟩
    · rw [hok, selectedPath?, hpath, hcurrent, Option.some_or]
    · rw [herror, hcurrent, selectedPath?, Option.none_or]
  · rw [t.selectedPath?_eq_none ht, Option.none_or]
    exact (staysWithCurrent ht w).current

theorem session_current (turns : List Turn) (w : Workspace) :
    (session turns w).2.current = (lastSelected (session turns w).1).or w.current := by
  induction turns generalizing w with
  | nil => rfl
  | cons t rest ih =>
    simp only [session]
    rw [ih, t.current_eq, lastSelected_cons, Option.or_assoc]

/-- After any row of calls, whatever has become of each of them, the current path is the one that
the last successful call to open or create a workbook has reported, or the one before the row.
Whatever call comes next: one that opens or creates a workbook selects the path of its answer if it
succeeds, and leaves the current path as it was if it fails; each other call leaves it as it was and
works on the current workbook only. -/
theorem session_follows_selections (turns : List Turn) (start : Workspace) :
    (session turns start).2.current =
        (lastSelected (session turns start).1).or start.current ∧
      ∀ (t : Turn) (w : Workspace), w = (session turns start).2 →
        session (turns ++ [t]) start =
            ((session turns start).1 ++ [(t.result w).1], (t.result w).2) ∧
          (t.call.Selects →
            (∃ answer p, (t.result w).1 = .ok answer ∧ answer.selectedPath? = some p ∧
              (t.result w).2.current = some p) ∨
            ∃ e, (t.result w).1 = .error e ∧ (t.result w).2.current = w.current) ∧
          (¬ t.call.Selects →
            selectedPath? (t.result w).1 = none ∧ StaysWithCurrent t w) := by
  refine ⟨session_current turns start, ?_⟩
  rintro t w rfl
  refine ⟨?_, fun ht => t.current_of_selects ht _, fun ht => ?_⟩
  · rw [session_append]
    rfl
  · exact ⟨t.selectedPath?_eq_none ht _, staysWithCurrent ht _⟩

end WorkbookTools.Tool
