import WorkbookTools.Editing.Engine
import WorkbookTools.Proofs.Action
import WorkbookTools.Proofs.Editing.Mentions

/-!
# Edits of a sheet in memory

The file engine applies edits to a sheet in memory. Each edit concerns the cell at its address, so
what becomes of a cell is decided by the edits that are addressed to it, in their order.

* `applyAll_preserves`: what each update preserves is preserved by a row of edits.
* `applyAll_ok`: what a row of edits makes of each cell.
-/

namespace WorkbookTools

def Sheet.cellAt (s : Sheet) (row column : Nat) : Cell := (s.cell? row column).getD Cell.empty

def CellEdit.isAt (e : CellEdit) (row column : Nat) : Bool :=
  e.address.row = row ∧ e.address.column = column

namespace Sheet

open WorkbookTools.Action CellEdit

variable {autoFormula : Bool} {s s' : Sheet} {row column : Nat} {e : CellEdit}
  {edits : List CellEdit}

theorem cellAt_setCell (s : Sheet) (row column i j : Nat) (c : Cell) :
    (s.setCell row column c).cellAt i j = if row = i ∧ column = j then c else s.cellAt i j := by
  rw [cellAt, cell?_setCell]
  split <;> rfl

/-- An edit of a cell that succeeds sets this cell. -/
theorem edit_ok {change : Cell → Except String Unit × Cell}
    (h : s.edit row column change = (.ok (), s')) :
    (change (s.cellAt row column)).1 = .ok () ∧
      s' = s.setCell row column (change (s.cellAt row column)).2 := by
  unfold Sheet.edit at h
  split at h
  · cases h
  split at h
  · cases h
  obtain ⟨houtcome, rfl⟩ := Prod.mk.inj h
  simp only [Int.toNat_natCast] at houtcome ⊢
  refine ⟨?_, rfl⟩
  cases hchange : (change ((s.cell? row column).getD Cell.empty)).1 with
  | ok _ => exact hchange
  | error text =>
    rw [hchange] at houtcome
    cases houtcome

/-- The file engine's update, as a function of the sheet. -/
theorem result_updater (autoFormula : Bool) (row column : Int) (u : CellUpdate) (s : Sheet) :
    result (Sheet.updater autoFormula row column u) s =
      ((s.update autoFormula row column u).1.mapError .sheet,
        (s.update autoFormula row column u).2) := by
  unfold Sheet.updater
  rw [result_get_bind]
  cases hupdate : Sheet.update autoFormula s row column u with
  | mk outcome edited =>
    simp only [result_set_bind]
    cases outcome <;> rfl

theorem result_updater_ok {row column : Int} {u : CellUpdate} :
    result (Sheet.updater autoFormula row column u) s = (.ok (), s') ↔
      s.update autoFormula row column u = (.ok (), s') := by
  rw [result_updater, Prod.ext_iff, Prod.ext_iff, mapError_eq_ok]

theorem updater_ok {u : CellUpdate}
    (h : result (Sheet.updater autoFormula row column u) s = (.ok (), s')) :
    ((s.cellAt row column).update autoFormula u).1 = .ok () ∧
      s' = s.setCell row column ((s.cellAt row column).update autoFormula u).2 :=
  edit_ok (result_updater_ok.mp h)

/-! ## What edits preserve -/

/-- The edits that succeed, as rows of updates. -/
theorem applyReported_eq_updates {applied : AppliedEdit}
    (h : result (e.applyReported (Sheet.updater autoFormula)) s = (.ok applied, s')) :
    applied = e.applied ∧
      result (e.updates.forM fun p =>
        Sheet.updater autoFormula e.address.row e.address.column p.2) s = (.ok ⟨⟩, s') := by
  unfold CellEdit.applyReported at h
  rw [result_tryCatch] at h
  split at h
  · next found next happly =>
    cases h
    unfold CellEdit.apply at happly
    obtain ⟨_, last, hupdates, hend⟩ := bind_ok.mp happly
    cases hend
    exact ⟨rfl, hupdates⟩
  · cases h

theorem forM_updater_preserves {P : Sheet → Prop} {updates : List (EditField × CellUpdate)}
    (hstep : ∀ p ∈ updates, ∀ before after, P before →
      result (Sheet.updater autoFormula row column p.2) before = (.ok (), after) → P after)
    (h : result (updates.forM fun p => Sheet.updater autoFormula row column p.2) s = (.ok ⟨⟩, s'))
    (hs : P s) : P s' := by
  induction updates generalizing s with
  | nil =>
    cases h
    exact hs
  | cons p rest ih =>
    unfold List.forM at h
    obtain ⟨_, next, hfirst, hrest⟩ := bind_ok.mp h
    have hnext := hstep p List.mem_cons_self s next hs hfirst
    exact ih (fun q hq => hstep q (List.mem_cons_of_mem _ hq)) hrest hnext

/-- What each update preserves is preserved by a row of edits. -/
theorem applyAll_preserves {P : Sheet → Prop} {applied : List AppliedEdit}
    (hstep : ∀ e ∈ edits, ∀ p ∈ e.updates, ∀ before after, P before →
      result (Sheet.updater autoFormula e.address.row e.address.column p.2) before =
        (.ok (), after) → P after)
    (h : result (CellEdit.applyAll (Sheet.updater autoFormula) edits) s = (.ok applied, s'))
    (hs : P s) : P s' := by
  induction edits generalizing s applied with
  | nil =>
    cases h
    exact hs
  | cons e rest ih =>
    unfold CellEdit.applyAll at h
    obtain ⟨first, next, hfirst, h⟩ := bind_ok.mp h
    obtain ⟨others, last, hothers, hend⟩ := bind_ok.mp h
    cases hend
    have hnext : P next :=
      forM_updater_preserves (hstep e List.mem_cons_self) (applyReported_eq_updates hfirst).2 hs
    exact ih (fun other hother => hstep other (List.mem_cons_of_mem _ hother)) hothers hnext

/-! ## What becomes of the cells -/

theorem forM_updater_ok {updates : List (EditField × CellUpdate)}
    (h : result (updates.forM fun p => Sheet.updater autoFormula row column p.2) s = (.ok ⟨⟩, s')) :
    (∀ p ∈ updates, ∃ c : Cell, (c.update autoFormula p.2).1 = .ok ()) ∧
      ∀ i j, s'.cellAt i j =
        if row = i ∧ column = j then
          updates.foldl (fun c p => (c.update autoFormula p.2).2) (s.cellAt i j)
        else s.cellAt i j := by
  induction updates generalizing s with
  | nil =>
    cases h
    exact ⟨by simp, by simp⟩
  | cons p rest ih =>
    unfold List.forM at h
    obtain ⟨_, next, hfirst, hrest⟩ := bind_ok.mp h
    obtain ⟨hok, hnext⟩ := updater_ok hfirst
    obtain ⟨hoks, hcells⟩ := ih hrest
    constructor
    · intro q hq
      rcases List.mem_cons.mp hq with rfl | hq
      · exact ⟨_, hok⟩
      · exact hoks q hq
    · intro i j
      rw [hcells, hnext, cellAt_setCell]
      split
      · next hplace =>
        obtain ⟨rfl, rfl⟩ := hplace
        rfl
      · rfl

/-- An edit that succeeds has been taken, and changes the cell at its address only. -/
theorem applyReported_ok {applied : AppliedEdit}
    (h : result (e.applyReported (Sheet.updater autoFormula)) s = (.ok applied, s')) :
    applied = e.applied ∧ IsTaken autoFormula e ∧
      ∀ i j, s'.cellAt i j =
        if e.isAt i j then applyTo autoFormula (s.cellAt i j) e else s.cellAt i j := by
  obtain ⟨rfl, hupdates⟩ := applyReported_eq_updates h
  obtain ⟨hoks, hcells⟩ := forM_updater_ok hupdates
  refine ⟨rfl, fun text htext => ?_, fun i j => ?_⟩
  · have hmem : (EditField.content, CellUpdate.text text) ∈ e.updates := by
      simp [updates, htext]
    obtain ⟨c, hok⟩ := hoks _ hmem
    rw [Cell.update_text_outcome autoFormula Cell.empty c]
    exact hok
  · rw [hcells, applyTo_eq_foldl_updates]
    simp only [CellEdit.isAt, decide_eq_true_eq]

/-- An edit without content leaves all contents alone. -/
theorem content_applyReported {applied : AppliedEdit} (hcontent : e.content = none)
    (h : result (e.applyReported (Sheet.updater autoFormula)) s = (.ok applied, s')) (i j : Nat) :
    (s'.cellAt i j).field .content = (s.cellAt i j).field .content := by
  obtain ⟨-, htaken, hcell⟩ := applyReported_ok h
  have hmention : e.mention .content = none := by rw [mention, hcontent, Option.map_none]
  rw [hcell]
  split
  · rw [field_applyTo htaken, hmention, alone]
  · rfl

/-- After a row of edits each cell is what the edits that are addressed to it make of it. -/
theorem applyAll_ok {applied : List AppliedEdit}
    (h : result (CellEdit.applyAll (Sheet.updater autoFormula) edits) s = (.ok applied, s')) :
    applied = edits.map CellEdit.applied ∧ (∀ e ∈ edits, IsTaken autoFormula e) ∧
      ∀ i j, s'.cellAt i j =
        (edits.filter (·.isAt i j)).foldl (applyTo autoFormula) (s.cellAt i j) := by
  induction edits generalizing s applied with
  | nil =>
    cases h
    exact ⟨rfl, by simp, fun _ _ => rfl⟩
  | cons e rest ih =>
    unfold CellEdit.applyAll at h
    obtain ⟨first, next, hfirst, h⟩ := bind_ok.mp h
    obtain ⟨others, last, hothers, hend⟩ := bind_ok.mp h
    cases hend
    obtain ⟨rfl, htaken, hcell⟩ := applyReported_ok hfirst
    obtain ⟨rfl, htakens, hcells⟩ := ih hothers
    refine ⟨rfl, ?_, fun i j => ?_⟩
    · intro other hother
      rcases List.mem_cons.mp hother with rfl | hother
      · exact htaken
      · exact htakens other hother
    · rw [hcells, hcell]
      by_cases hat : e.isAt i j
      · rw [if_pos hat, List.filter_cons, if_pos hat, List.foldl_cons]
      · rw [if_neg hat, List.filter_cons, if_neg hat]

end Sheet

end WorkbookTools
