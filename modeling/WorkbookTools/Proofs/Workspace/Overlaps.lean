import Mathlib.Data.List.Infix
import Mathlib.Data.List.Nodup
import WorkbookTools.Proofs.Workspace.Interleavings

/-!
# Two calls that overlap

The steps of two calls either come one call after the other, or both calls load before one of them
saves: then they overlap. The lineage of two calls that have ended is both of them in the order in
which they save, or, if they overlap, the one that saves last alone.

* `Stage.snoc`, `lineage_of_ended`: the lineage of two calls, step after step.
* `interleaved_edits_serial_or_last_alone`: what two calls for one workbook leave in it.
-/

namespace WorkbookTools.Workspace

open WorkbookTools.Action FileSystem

variable {policy : Option PathPolicy} {p : Path}

/-! ## The lineage of two calls -/

/-- Both calls have loaded before one of them has saved. -/
def Overlap (schedule : List Bool) : Prop :=
  ∃ earlier, earlier <+: schedule ∧ ∀ b, earlier.count b = 1

/-- The call saves after the other one has saved. -/
def SavesLast (schedule : List Bool) (last : Bool) : Prop :=
  ∃ earlier, earlier <+: schedule ∧ 2 ≤ earlier.count (!last) ∧ earlier.count last < 2

instance (schedule : List Bool) : Decidable (Overlap schedule) :=
  decidable_of_iff (∃ earlier ∈ schedule.inits, ∀ b, earlier.count b = 1)
    (by simp only [Overlap, List.mem_inits])

instance (schedule : List Bool) (last : Bool) : Decidable (SavesLast schedule last) :=
  decidable_of_iff
    (∃ earlier ∈ schedule.inits, 2 ≤ earlier.count (!last) ∧ earlier.count last < 2)
    (by simp only [SavesLast, List.mem_inits])

section TwoCalls

variable {schedule : List Bool} {first last : Bool}

theorem not_overlap_of_count_eq_zero (h : schedule.count first = 0) : ¬ Overlap schedule := by
  rintro ⟨earlier, hearlier, hcount⟩
  have hle : earlier.count first ≤ schedule.count first := hearlier.sublist.count_le first
  rw [hcount, h] at hle
  omega

/-- Once a call has saved, no further step makes the calls overlap. -/
theorem overlap_snoc_iff (h : 2 ≤ schedule.count first) (b : Bool) :
    Overlap (schedule ++ [b]) ↔ Overlap schedule := by
  constructor
  · rintro ⟨earlier, hearlier, hcount⟩
    rcases List.prefix_concat_iff.mp hearlier with rfl | hearlier
    · have hone := hcount first
      rw [List.count_append] at hone
      omega
    · exact ⟨earlier, hearlier, hcount⟩
  · rintro ⟨earlier, hearlier, hcount⟩
    exact ⟨earlier, hearlier.trans (List.prefix_append _ _), hcount⟩

theorem SavesLast.snoc (h : SavesLast schedule last) (b : Bool) :
    SavesLast (schedule ++ [b]) last := by
  obtain ⟨earlier, hearlier, hcount⟩ := h
  exact ⟨earlier, hearlier.trans (List.prefix_append _ _), hcount⟩

/-- How far two calls have come: none has saved, one has saved, or both. -/
inductive Stage (schedule : List Bool) (c : Course Bool) : Prop
  | unsaved (lineage_eq : c.lineage = [])
      (calls : ∀ b, c.phase b = .waiting ∧ schedule.count b = 0 ∨
        c.phase b = .editing [] ∧ schedule.count b = 1)
  | saved (first : Bool) (lineage_eq : c.lineage = [first]) (phase_eq : c.phase first = .ended)
      (steps : 2 ≤ schedule.count first)
      (other : c.phase (!first) = .waiting ∧ schedule.count (!first) = 0 ∧ ¬ Overlap schedule ∨
        c.phase (!first) = .editing [first] ∧ schedule.count (!first) = 1 ∧ ¬ Overlap schedule ∨
        c.phase (!first) = .editing [] ∧ schedule.count (!first) = 1 ∧ Overlap schedule)
  | ended (last : Bool) (saves : SavesLast schedule last) (phase_eq : ∀ b, c.phase b = .ended)
      (steps : 2 ≤ schedule.count last)
      (lineage_eq : c.lineage = [!last, last] ∧ ¬ Overlap schedule ∨
        c.lineage = [last] ∧ Overlap schedule)

namespace Stage

variable {c : Course Bool}

theorem snoc_unsaved (hlineage : c.lineage = [])
    (hcalls : ∀ b, c.phase b = .waiting ∧ schedule.count b = 0 ∨
      c.phase b = .editing [] ∧ schedule.count b = 1) (b : Bool) :
    Stage (schedule ++ [b]) (c.step b) := by
  have hself : (schedule ++ [b]).count b = schedule.count b + 1 := by simp
  have hother : (schedule ++ [b]).count (!b) = schedule.count (!b) := by simp [List.count_append]
  have hnext := hcalls (!b)
  rw [← Course.phase_step_of_ne c (Bool.not_ne_self b), ← hother] at hnext
  rcases hcalls b with ⟨hphase, hcount⟩ | ⟨hphase, hcount⟩
  · -- `b` loads the file as it was at the start.
    refine .unsaved (by rw [Course.step_of_waiting hphase, hlineage]) fun d => ?_
    rcases Bool.eq_or_eq_not d b with rfl | rfl
    · exact .inr ⟨by rw [Course.phase_step_of_waiting hphase, hlineage], by omega⟩
    · exact hnext
  · -- `b` is the first call to save, before the other one loads or after that.
    refine .saved b (by rw [Course.step_of_editing hphase, List.nil_append])
      (Course.phase_step_of_editing hphase) (by omega) ?_
    rcases hnext with ⟨hphase', hcount'⟩ | ⟨hphase', hcount'⟩
    · exact .inl ⟨hphase', hcount', not_overlap_of_count_eq_zero hcount'⟩
    · refine .inr (.inr ⟨hphase', hcount', schedule, List.prefix_append _ _, fun d => ?_⟩)
      rcases Bool.eq_or_eq_not d b with rfl | rfl
      · exact hcount
      · exact hother ▸ hcount'

/-- The second call saves: the lineage is what it has seen, and itself. -/
theorem snoc_second_saves {first : Bool} {seen : List Bool} (hphase : c.phase first = .ended)
    (hsteps : 2 ≤ schedule.count first) (hsecond : c.phase (!first) = .editing seen)
    (hcount : schedule.count (!first) = 1)
    (hseen : seen = [first] ∧ ¬ Overlap schedule ∨ seen = [] ∧ Overlap schedule) :
    Stage (schedule ++ [!first]) (c.step (!first)) := by
  have hsaves : SavesLast (schedule ++ [!first]) (!first) :=
    ⟨schedule, List.prefix_append _ _, by rwa [Bool.not_not], by omega⟩
  have hended (d : Bool) : (c.step (!first)).phase d = .ended := by
    rcases Bool.eq_or_eq_not d (!first) with rfl | rfl
    · exact Course.phase_step_of_editing hsecond
    · rw [Bool.not_not, Course.phase_step_of_ne c (Bool.not_ne_self first).symm, hphase]
  refine .ended (!first) hsaves hended (by simp [hcount]) ?_
  rw [Course.step_of_editing hsecond, overlap_snoc_iff hsteps, Bool.not_not]
  rcases hseen with ⟨rfl, hnone⟩ | ⟨rfl, hsome⟩
  · exact .inl ⟨rfl, hnone⟩
  · exact .inr ⟨rfl, hsome⟩

/-- One step. -/
theorem snoc (h : Stage schedule c) (b : Bool) : Stage (schedule ++ [b]) (c.step b) := by
  cases h with
  | unsaved hlineage hcalls => exact snoc_unsaved hlineage hcalls b
  | saved first hlineage hphase hsteps hcalls =>
    have hcount (d : Bool) : (schedule ++ [d]).count d = schedule.count d + 1 := by simp
    have hother (d : Bool) : (schedule ++ [d]).count (!d) = schedule.count (!d) := by
      simp [List.count_append]
    rcases Bool.eq_or_eq_not b first with rfl | rfl
    · rw [Course.step_of_ended hphase]
      refine .saved b hlineage hphase (by rw [hcount]; omega) ?_
      rwa [hother, overlap_snoc_iff hsteps]
    · rcases hcalls with ⟨hsecond, hzero, hnone⟩ | ⟨hsecond, hone, hnone⟩ | ⟨hsecond, hone, hsome⟩
      · -- The second call loads what the first one has saved.
        have hfirst : (schedule ++ [!first]).count first = schedule.count first := by simp
        refine .saved first (by rw [Course.step_of_waiting hsecond, hlineage]) ?_ (by omega)
          (.inr (.inl ⟨?_, by rw [hcount, hzero], (overlap_snoc_iff hsteps _).not.mpr hnone⟩))
        · rw [Course.phase_step_of_ne c (Bool.not_ne_self first).symm, hphase]
        · rw [Course.phase_step_of_waiting hsecond, hlineage]
      · exact snoc_second_saves hphase hsteps hsecond hone (.inl ⟨rfl, hnone⟩)
      · exact snoc_second_saves hphase hsteps hsecond hone (.inr ⟨rfl, hsome⟩)
  | ended last hsaves hphase hsteps hlineage =>
    rw [Course.step_of_ended (hphase b)]
    refine .ended last (hsaves.snoc b) hphase ?_ ?_
    · rw [List.count_append]
      omega
    · rwa [overlap_snoc_iff hsteps b]

/-- All the steps of a schedule, by induction on it. -/
theorem run (h : Stage schedule c) (more : List Bool) :
    Stage (schedule ++ more) (c.run more) := by
  induction more generalizing schedule c with
  | nil =>
    rw [List.append_nil]
    exact h
  | cons b rest ih =>
    rw [← List.singleton_append, ← List.append_assoc]
    exact ih (h.snoc b)

end Stage

theorem stage_of (schedule : List Bool) : Stage schedule (Course.run .initial schedule) := by
  have hstart : Stage [] Course.initial := .unsaved rfl fun _ => .inl ⟨rfl, List.count_nil⟩
  exact hstart.run schedule

/-- When both calls have ended, the file is due to both, in the order of the schedule, or to the one
that has saved last alone. -/
theorem lineage_of_ended (h : ∀ b, (Course.run .initial schedule).phase b = .ended) :
    ∃ last, SavesLast schedule last ∧ (lineage schedule = [!last, last] ∧ ¬ Overlap schedule ∨
      lineage schedule = [last] ∧ Overlap schedule) := by
  cases stage_of schedule with
  | unsaved hlineage hcalls =>
    rcases hcalls true with ⟨hphase, -⟩ | ⟨hphase, -⟩
    all_goals
      rw [h true] at hphase
      cases hphase
  | saved first hlineage hphase hsteps hcalls =>
    rcases hcalls with ⟨hphase, -⟩ | ⟨hphase, -⟩ | ⟨hphase, -⟩
    all_goals
      rw [h (!first)] at hphase
      cases hphase
  | ended last hsaves hphase hsteps hlineage => exact ⟨last, hsaves, hlineage⟩

end TwoCalls

/-! ## Two calls for one workbook -/

/-- Two calls for one workbook that both succeed, in whatever order their steps are taken. If they do
not overlap, the file is as if they had been made one after another, in the order in which they save.
If they overlap, it is as if the one that saves last had been made alone. A cell to which only one of
the calls so counted writes becomes what this call makes of it, as far as contents last when a
workbook is saved and loaded. -/
theorem interleaved_edits_serial_or_last_alone {edits : Bool → FileEdit} {w : Workspace}
    (schedule : List Bool) (hshare : ShareFile policy edits p w)
    (hended : ∀ b, (Calls.run policy edits (.initial w) schedule).status b = .ended (.ok ())) :
    let w' := (Calls.run policy edits (.initial w) schedule).workspace
    ∃ last order, SavesLast schedule last ∧
      (order = [!last, last] ∧ ¬ Overlap schedule ∨ order = [last] ∧ Overlap schedule) ∧
      (∃ serial, result (runAll policy (order.map edits)) w = (.ok (), serial) ∧
        w'.files.read p = serial.files.read p) ∧
      ∀ before after, loaded p w.files = .ok before → loaded p w'.files = .ok after →
        after.titles = before.titles ∧
          ∀ (k : Nat) (name : String) (old : Sheet), before.sheets[k]? = some (name, old) →
            ∃ new : Sheet, after.sheets[k]? = some (name, new) ∧ ∀ i j,
              Cell.LastsIn (changedBy (order.map edits) before.titles k i j (old.cellAt i j))
                (new.cellAt i j) ∧
              ∀ writer ∈ order,
                (∀ b ∈ order, b ≠ writer → ¬ (edits b).Writes before.titles k i j) →
                  Cell.LastsIn ((edits writer).changed before.titles k i j (old.cellAt i j))
                    (new.cellAt i j) := by
  intro w'
  obtain ⟨content, hread⟩ := exists_content hshare hended
  obtain ⟨hphase, now, serial, hnow, hrewritten, hserial, hlast⟩ := run_serial hshare hread hended
  obtain ⟨last, hsaves, horder⟩ := lineage_of_ended hphase
  refine ⟨last, lineage schedule, hsaves, horder, ⟨serial, hserial, hnow.trans hlast.symm⟩,
    fun before after hbefore hafter => ?_⟩
  rw [loaded_eq_bookIn hread] at hbefore
  rw [loaded_eq_bookIn hnow] at hafter
  obtain ⟨-, htitles, hcells⟩ := hrewritten.cells hbefore hafter
  have hnodup : (lineage schedule).Nodup := by
    rcases horder with ⟨horder, -⟩ | ⟨horder, -⟩
    · rw [horder]
      exact List.nodup_cons.mpr ⟨by simp, List.nodup_singleton _⟩
    · rw [horder]
      exact List.nodup_singleton _
  refine ⟨htitles, fun k name old hk => ?_⟩
  obtain ⟨new, hnew, hlasts⟩ := hcells k name old hk
  refine ⟨new, hnew, fun i j => ⟨hlasts i j, fun writer hwriter honly => ?_⟩⟩
  rw [← changedBy_of_only hnodup hwriter honly]
  exact hlasts i j

/-! ## A block and a batch -/

def sharedPath : Path := Path.ofText "/book.xlsx"

/-- One call writes the value to the first cell, the other one a text to the second cell. -/
def writeEach (value : Scalar) : Bool → FileEdit
  | true => .block ⟨sharedPath, "Sheet1", ⟨1, Nat.one_pos⟩, ⟨1, Nat.one_pos⟩,
      ⟨[[value]], List.cons_ne_nil _ _⟩, false⟩
  | false => .batch ⟨sharedPath, "Sheet1", ["'b'@B1"], .only .file, false⟩

/-- The two calls after a schedule. -/
def afterEach (value : Scalar) (schedule : List Bool) : Calls Bool :=
  Calls.run none (writeEach value) (.initial keptWorkspace) schedule

/-- The values of the first two cells. -/
def firstValues (w : Workspace) : Except Error (CellValue × CellValue) := do
  let book ← loaded sharedPath w.files
  let sheet ← (book.sheet "Sheet1").mapError .title
  pure ((sheet.cellAt 1 1).value, (sheet.cellAt 1 2).value)

/-- Both calls load before one of them saves: the batch saves last, and it is as if it were alone. -/
theorem overlapped_batch_is_as_if_alone :
    ∃ serial, result (runAll none [writeEach (.text "a") false]) keptWorkspace = (.ok (), serial) ∧
      (afterEach (.text "a") [true, false, true, false]).workspace.files.read sharedPath =
        serial.files.read sharedPath := by
  unfold afterEach
  have hshare : ShareFile none (writeEach (.text "a")) sharedPath keptWorkspace :=
    { resolved := by decide +kernel
      engine := fun b x _ => by cases b; exacts [.inl rfl, trivial]
      log := fun f hf => by cases hf }
  obtain ⟨last, order, hsaves, horder, ⟨serial, hserial, hread⟩, -⟩ :=
    interleaved_edits_serial_or_last_alone [true, false, true, false] hshare (by decide +kernel)
  have hlast : last = false := by
    cases last with
    | false => rfl
    | true => exact absurd hsaves (by decide)
  have hoverlap : Overlap [true, false, true, false] := by decide
  obtain rfl : order = [false] := by
    rcases horder with ⟨-, hnone⟩ | ⟨rfl, -⟩
    · exact absurd hoverlap hnone
    · rw [hlast]
  exact ⟨serial, hserial, hread⟩

/-- Both calls succeed, but the block is lost, as it is in neither order of the calls. Where they do
not overlap, a number with seventeen digits is not read as it was written. -/
theorem overlapped_block_is_lost :
    let overlapped := afterEach (.text "a") [true, false, true, false]
    let apart := afterEach (.number (.finite false 5404319552844596 1020)) [true, true, false, false]
    (∀ b, overlapped.status b = .ended (.ok ())) ∧
      firstValues overlapped.workspace = .ok (.text "kept", .text "b") ∧
      (∀ first, firstValues (result (runAll none
        [writeEach (.text "a") first, writeEach (.text "a") (!first)]) keptWorkspace).2 =
          .ok (.text "a", .text "b")) ∧
      (∀ b, apart.status b = .ended (.ok ())) ∧
      firstValues apart.workspace =
        .ok (.number (.finite false 5404319552844595 1020), .text "b") := by
  decide +kernel

end WorkbookTools.Workspace
