import WorkbookTools.Proofs.Workspace.Revisions

/-!
# Calls whose steps interleave

Calls work at one workbook, each in its own thread, so that the steps of one may fall between the
steps of another. No lock keeps a call from loading what another one is about to replace.

A call that saves puts its own draft in the place of whatever is in the file. What is in the file is
then due to the calls that had saved before this one loaded, and to this one: the lineage of the
schedule. The calls outside of the lineage have succeeded too, but their edits are lost.

* `Tracks.step`, `Tracks.run`: the file holds what the calls of the lineage make of its content.
* `run_serial`: so it is as if only these calls had been made, one after another.
-/

namespace WorkbookTools.Workspace

open WorkbookTools.Action FileSystem

/-! ## The calls -/

/-- How far a call has come. -/
inductive Status where
  | waiting
  | editing (draft : Draft)
  | ended (outcome : Except Error Unit)
  deriving DecidableEq

/-- Calls at work in one workspace. -/
structure Calls (ι : Type) where
  workspace : Workspace
  status : ι → Status

variable {ι : Type} {policy : Option PathPolicy} {edits : ι → FileEdit} {p : Path}
  {start : Workspace} {content : Content}

section Steps

variable [DecidableEq ι]

namespace Calls

/-- The call takes its next step, if it has not ended. -/
def step (policy : Option PathPolicy) (edits : ι → FileEdit) (c : Calls ι) (i : ι) : Calls ι :=
  match c.status i with
  | .waiting =>
    match result ((edits i).prepare policy) c.workspace with
    | (.ok draft, w) => ⟨w, Function.update c.status i (.editing draft)⟩
    | (.error e, w) => ⟨w, Function.update c.status i (.ended (.error e))⟩
  | .editing draft =>
    let (outcome, w) := result draft.complete c.workspace
    ⟨w, Function.update c.status i (.ended outcome)⟩
  | .ended _ => c

/-- The calls take steps in the order of the schedule. -/
def run (policy : Option PathPolicy) (edits : ι → FileEdit) (c : Calls ι) (schedule : List ι) :
    Calls ι :=
  schedule.foldl (step policy edits) c

/-- No call has taken a step. -/
def initial (w : Workspace) : Calls ι := ⟨w, fun _ => .waiting⟩

/-- No call has failed. -/
def NoneFailed (c : Calls ι) : Prop := ∀ i e, c.status i ≠ .ended (.error e)

theorem status_step_of_ended {c : Calls ι} {i : ι} {outcome : Except Error Unit}
    (h : c.status i = .ended outcome) (j : ι) :
    (c.step policy edits j).status i = .ended outcome := by
  by_cases hij : i = j
  · subst hij
    unfold step
    simp only [h]
  · unfold step
    split
    · split <;> simp only [Function.update_of_ne hij, h]
    · simp only [Function.update_of_ne hij, h]
    · exact h

theorem status_run_of_ended {c : Calls ι} {i : ι} {outcome : Except Error Unit}
    (h : c.status i = .ended outcome) (schedule : List ι) :
    (c.run policy edits schedule).status i = .ended outcome := by
  induction schedule generalizing c with
  | nil => exact h
  | cons j rest ih => exact ih (status_step_of_ended h j)

theorem NoneFailed.of_run {c : Calls ι} {schedule : List ι}
    (h : (c.run policy edits schedule).NoneFailed) : c.NoneFailed :=
  fun i e hfailed => h i e (status_run_of_ended hfailed schedule)

omit [DecidableEq ι] in
theorem NoneFailed.of_ended {c : Calls ι} (h : ∀ i, c.status i = .ended (.ok ())) :
    c.NoneFailed := by
  intro i e hfailed
  rw [h i] at hfailed
  cases hfailed

theorem step_of_waiting {c : Calls ι} {i : ι} (h : c.status i = .waiting)
    (hnone : (c.step policy edits i).NoneFailed) :
    ∃ draft w, result ((edits i).prepare policy) c.workspace = (.ok draft, w) ∧
      c.step policy edits i = ⟨w, Function.update c.status i (.editing draft)⟩ := by
  unfold step at hnone ⊢
  rw [h] at hnone ⊢
  cases hprepare : result ((edits i).prepare policy) c.workspace with
  | mk outcome w =>
    simp only [hprepare] at hnone ⊢
    cases outcome with
    | error e => exact absurd (Function.update_self ..) (hnone i e)
    | ok draft => exact ⟨draft, w, rfl, rfl⟩

theorem step_of_editing {c : Calls ι} {i : ι} {draft : Draft} (h : c.status i = .editing draft)
    (hnone : (c.step policy edits i).NoneFailed) :
    ∃ w, result draft.complete c.workspace = (.ok (), w) ∧
      c.step policy edits i = ⟨w, Function.update c.status i (.ended (.ok ()))⟩ := by
  unfold step at hnone ⊢
  rw [h] at hnone ⊢
  cases hcomplete : result draft.complete c.workspace with
  | mk outcome w =>
    simp only [hcomplete] at hnone ⊢
    cases outcome with
    | error e => exact absurd (Function.update_self ..) (hnone i e)
    | ok _ => exact ⟨w, rfl, rfl⟩

theorem step_of_ended {c : Calls ι} {i : ι} {outcome : Except Error Unit}
    (h : c.status i = .ended outcome) : c.step policy edits i = c := by
  unfold step
  rw [h]

end Calls

/-! ## The lineage -/

/-- How far a schedule has brought a call, with the calls whose edits it has loaded. -/
inductive Phase (ι : Type) where
  | waiting
  | editing (seen : List ι)
  | ended

/-- What a schedule makes of calls that do not fail. -/
structure Course (ι : Type) where
  /-- The calls whose edits are in the file, in the order in which they were made. -/
  lineage : List ι
  phase : ι → Phase ι

namespace Course

def step (c : Course ι) (i : ι) : Course ι :=
  match c.phase i with
  | .waiting => ⟨c.lineage, Function.update c.phase i (.editing c.lineage)⟩
  | .editing seen => ⟨seen ++ [i], Function.update c.phase i .ended⟩
  | .ended => c

theorem step_of_waiting {c : Course ι} {i : ι} (h : c.phase i = .waiting) :
    c.step i = ⟨c.lineage, Function.update c.phase i (.editing c.lineage)⟩ := by
  unfold step
  rw [h]

theorem step_of_editing {c : Course ι} {i : ι} {seen : List ι} (h : c.phase i = .editing seen) :
    c.step i = ⟨seen ++ [i], Function.update c.phase i .ended⟩ := by
  unfold step
  rw [h]

theorem step_of_ended {c : Course ι} {i : ι} (h : c.phase i = .ended) : c.step i = c := by
  unfold step
  rw [h]

theorem phase_step_of_waiting {c : Course ι} {i : ι} (h : c.phase i = .waiting) :
    (c.step i).phase i = .editing c.lineage := by
  rw [step_of_waiting h]
  exact Function.update_self ..

theorem phase_step_of_editing {c : Course ι} {i : ι} {seen : List ι} (h : c.phase i = .editing seen) :
    (c.step i).phase i = .ended := by
  rw [step_of_editing h]
  exact Function.update_self ..

theorem phase_step_of_ne {i j : ι} (c : Course ι) (h : j ≠ i) : (c.step i).phase j = c.phase j := by
  unfold step
  split
  · exact Function.update_of_ne h ..
  · exact Function.update_of_ne h ..
  · rfl

def run (c : Course ι) (schedule : List ι) : Course ι := schedule.foldl step c

def initial : Course ι := ⟨[], fun _ => .waiting⟩

end Course

/-- The calls whose edits are in the file after a schedule in which no call fails. -/
def lineage (schedule : List ι) : List ι := (Course.run .initial schedule).lineage

end Steps

/-! ## What is in the file -/

/-- A call has come as far as the phase says. A draft is what the call makes of what the calls that
it has seen have made of the content. -/
inductive IsAt (policy : Option PathPolicy) (edits : ι → FileEdit) (p : Path) (start : Workspace)
    (content : Content) (i : ι) : Status → Phase ι → Prop where
  | waiting : IsAt policy edits p start content i .waiting .waiting
  | editing {draft : Draft} {seen : List ι} {between : Content} {book : Workbook}
      (ready : IsReady policy p start (edits i)) (path_eq : draft.path = p)
      (rewritten : RewrittenBy p (seen.map edits) content between)
      (book_eq : bookIn p between = .ok book) (revises : (edits i).Revises book draft.book) :
      IsAt policy edits p start content i (.editing draft) (.editing seen)
  | ended {place : Location} (ready : IsReady policy p start (edits i))
      (place_eq : start.files.writeTarget p = .ok place) :
      IsAt policy edits p start content i (.ended (.ok ())) .ended

/-- The calls are where the course says, in the setting of the start, and the file holds what the
calls of the lineage make of its content. -/
structure Tracks (policy : Option PathPolicy) (edits : ι → FileEdit) (p : Path) (start : Workspace)
    (content : Content) (c : Calls ι) (course : Course ι) : Prop where
  setting : SameSetting start c.workspace
  file : ∃ now, c.workspace.files.read p = .ok now ∧
    RewrittenBy p (course.lineage.map edits) content now
  status : ∀ i, IsAt policy edits p start content i (c.status i) (course.phase i)

/-- The calls are for the workbook under one path, the file engine carries them out, and the log
grows elsewhere. -/
structure ShareFile (policy : Option PathPolicy) (edits : ι → FileEdit) (p : Path)
    (start : Workspace) : Prop where
  resolved : ∀ i, PathPolicy.resolvePath policy start.files (edits i).path = .ok p
  engine : ∀ i, (edits i).AlwaysUsesFiles start.excel.setup
  log : LogElsewhere p start

theorem ShareFile.path_eq {w w' : Workspace} {i : ι} {draft : Draft}
    (h : ShareFile policy edits p start) (hsetting : SameSetting start w)
    (hprepare : result ((edits i).prepare policy) w = (.ok draft, w')) : draft.path = p := by
  have hfound := existing_of_prepare hprepare
  rw [hsetting.existing_eq] at hfound
  exact Except.ok.inj ((existing_ok hfound).1.symm.trans (h.resolved i))

theorem IsAt.of_ended {i : ι} {outcome : Except Error Unit} {phase : Phase ι}
    (h : IsAt policy edits p start content i (.ended outcome) phase) :
    phase = .ended ∧ IsReady policy p start (edits i) ∧
      ∃ place, start.files.writeTarget p = .ok place := by
  cases h with
  | ended hready hplace => exact ⟨rfl, hready, _, hplace⟩

theorem IsAt.update [DecidableEq ι] {status : ι → Status} {phase : ι → Phase ι} {i : ι} {s : Status}
    {ph : Phase ι} (h : ∀ j, IsAt policy edits p start content j (status j) (phase j))
    (hi : IsAt policy edits p start content i s ph) (j : ι) :
    IsAt policy edits p start content j (Function.update status i s j)
      (Function.update phase i ph j) := by
  by_cases hj : j = i
  · subst hj
    rwa [Function.update_self, Function.update_self]
  · rw [Function.update_of_ne hj, Function.update_of_ne hj]
    exact h j

namespace Tracks

variable {c : Calls ι} {course : Course ι}

theorem initial (h : start.files.read p = .ok content) :
    Tracks policy edits p start content (.initial start) .initial :=
  ⟨SameSetting.refl start, ⟨content, h, rfl⟩, fun _ => .waiting⟩

/-- A call loads: its draft is made of what the calls of the lineage have made. -/
theorem load [DecidableEq ι] (h : Tracks policy edits p start content c course)
    (hshare : ShareFile policy edits p start) {i : ι} {draft : Draft} {w : Workspace}
    (hprepare : result ((edits i).prepare policy) c.workspace = (.ok draft, w)) :
    Tracks policy edits p start content ⟨w, Function.update c.status i (.editing draft)⟩
      ⟨course.lineage, Function.update course.phase i (.editing course.lineage)⟩ := by
  obtain ⟨hsetting, ⟨now, hread, hnow⟩, hstatus⟩ := h
  have hlog : LogElsewhere p c.workspace := hsetting.logElsewhere hshare.log
  have hpath : draft.path = p := hshare.path_eq hsetting hprepare
  obtain ⟨hspares, book, hload, hrevises⟩ := prepare_ok hprepare (hpath ▸ hlog)
  rw [hpath] at hspares hload
  rw [loaded_eq_bookIn hread] at hload
  have hready : IsReady policy p start (edits i) :=
    ⟨hshare.engine i, c.workspace, w, draft, hsetting.symm, hprepare, hpath⟩
  exact ⟨hsetting.trans hspares.setting, ⟨now, (hspares.read_eq hlog).trans hread, hnow⟩,
    IsAt.update hstatus (.editing hready hpath hnow hload hrevises)⟩

/-- A call saves: the file holds what it has made of what it had loaded, whatever was in between. -/
theorem save [DecidableEq ι] (h : Tracks policy edits p start content c course)
    (hshare : ShareFile policy edits p start) {i : ι} {draft : Draft} {seen : List ι} {w : Workspace}
    (hi : IsAt policy edits p start content i (.editing draft) (.editing seen))
    (hcomplete : result draft.complete c.workspace = (.ok (), w)) :
    Tracks policy edits p start content ⟨w, Function.update c.status i (.ended (.ok ()))⟩
      ⟨seen ++ [i], Function.update course.phase i .ended⟩ := by
  obtain ⟨hsetting, ⟨now, hread, -⟩, hstatus⟩ := h
  have hlog : LogElsewhere p c.workspace := hsetting.logElsewhere hshare.log
  cases hi with
  | editing hready hpath hseen hbook hrevises =>
    subst hpath
    obtain ⟨kept, place, hstored, hplace, hsaved, hkept⟩ := complete_ok hcomplete hread hlog
    rw [← hsetting.shape.writeTarget_eq] at hplace
    refine ⟨hsetting.trans hsaved, ⟨.workbook kept, hkept, ?_⟩,
      IsAt.update hstatus (.ended hready hplace)⟩
    rw [List.map_append]
    exact hseen.snoc ⟨_, draft.book, kept, hbook, hrevises, hstored, rfl⟩

/-- One step. -/
theorem step [DecidableEq ι] (h : Tracks policy edits p start content c course)
    (hshare : ShareFile policy edits p start) {i : ι}
    (hnone : (c.step policy edits i).NoneFailed) :
    Tracks policy edits p start content (c.step policy edits i) (course.step i) := by
  have hi := h.status i
  generalize hstatus : c.status i = status at hi
  generalize hphase : course.phase i = phase at hi
  cases hi with
  | waiting =>
    obtain ⟨draft, w, hprepare, hstep⟩ := Calls.step_of_waiting hstatus hnone
    rw [hstep, Course.step_of_waiting hphase]
    exact h.load hshare hprepare
  | editing hready hpath hseen hbook hrevises =>
    obtain ⟨w, hcomplete, hstep⟩ := Calls.step_of_editing hstatus hnone
    rw [hstep, Course.step_of_editing hphase]
    exact h.save hshare (.editing hready hpath hseen hbook hrevises) hcomplete
  | ended =>
    rwa [Calls.step_of_ended hstatus, Course.step_of_ended hphase]

/-- All the steps of a schedule, by induction on it. -/
theorem run [DecidableEq ι] (h : Tracks policy edits p start content c course)
    (hshare : ShareFile policy edits p start) {schedule : List ι}
    (hnone : (c.run policy edits schedule).NoneFailed) :
    Tracks policy edits p start content (c.run policy edits schedule) (course.run schedule) := by
  induction schedule generalizing c course with
  | nil => exact h
  | cons i rest ih => exact ih (h.step hshare (Calls.NoneFailed.of_run hnone)) hnone

end Tracks

/-! ## The same calls one after another -/

section Serial

variable [DecidableEq ι] [Nonempty ι] {schedule : List ι}

/-- Calls that have all succeeded have found a workbook: the first step of them has loaded it. -/
theorem exists_content (hshare : ShareFile policy edits p start)
    (hended : ∀ i, (Calls.run policy edits (.initial start) schedule).status i = .ended (.ok ())) :
    ∃ content, start.files.read p = .ok content := by
  cases schedule with
  | nil => cases hended (Classical.arbitrary ι)
  | cons i rest =>
    have hfirst : (Calls.step policy edits (.initial start) i).NoneFailed :=
      Calls.NoneFailed.of_run (Calls.NoneFailed.of_ended hended)
    obtain ⟨draft, w, hprepare, -⟩ := Calls.step_of_waiting rfl hfirst
    have hpath := hshare.path_eq (SameSetting.refl start) hprepare
    obtain ⟨-, book, hload, -⟩ := prepare_ok hprepare (hpath ▸ hshare.log)
    obtain ⟨stored, more, hread, -⟩ := loaded_ok hload
    exact ⟨_, hpath ▸ hread⟩

/-- Calls that have all succeeded leave in the file what the calls of the lineage would leave there
if they were made one after another, and these would succeed. -/
theorem run_serial (hshare : ShareFile policy edits p start)
    (hread : start.files.read p = .ok content)
    (hended : ∀ i, (Calls.run policy edits (.initial start) schedule).status i = .ended (.ok ())) :
    (∀ i, (Course.run .initial schedule).phase i = .ended) ∧
      ∃ now serial, (Calls.run policy edits (.initial start) schedule).workspace.files.read p =
          .ok now ∧
        RewrittenBy p ((lineage schedule).map edits) content now ∧
        result (runAll policy ((lineage schedule).map edits)) start = (.ok (), serial) ∧
        serial.files.read p = .ok now := by
  obtain ⟨-, ⟨now, hnow, hrewritten⟩, hstatus⟩ :=
    (Tracks.initial hread).run hshare (Calls.NoneFailed.of_ended hended)
  have hcalls := fun i => IsAt.of_ended (hended i ▸ hstatus i)
  obtain ⟨-, -, place, hplace⟩ := hcalls (Classical.arbitrary ι)
  have hready : ∀ edit ∈ (lineage schedule).map edits, IsReady policy p start edit :=
    List.forall_mem_map.mpr fun i _ => (hcalls i).2.1
  obtain ⟨serial, hserial, hlast⟩ := runAll_of hready hshare.log hplace hread hrewritten
  exact ⟨fun i => (hcalls i).1, now, serial, hnow, hrewritten, hserial, hlast⟩

end Serial

end WorkbookTools.Workspace
