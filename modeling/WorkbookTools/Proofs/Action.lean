import Mathlib.Control.Monad.Basic
import WorkbookTools.Workspace

/-!
# Running actions

An action is a computation on a state that may fail: on the workspace, on a sheet, on Excel. This
module says what a run gives for each way of building actions, and takes runs of sequences apart.

Main statements: `bind_ok` and `bind_error`, how a sequence succeeds and how it fails.
-/

namespace WorkbookTools.Action

variable {ε σ α β : Type} {s s' : σ}

/-- The outcome of an action, with the state that it leaves. -/
def result (x : ExceptT ε (StateM σ) α) (s : σ) : Except ε α × σ := x.run.run s

theorem result_eq {x : ExceptT ε (StateM σ) α} {outcome : Except ε α}
    (h : (result x s).1 = outcome) : result x s = (outcome, (result x s).2) := by
  rw [← h]

/-! ## Single steps -/

@[simp] theorem result_pure (a : α) :
    result (pure a : ExceptT ε (StateM σ) α) s = (.ok a, s) := rfl

@[simp] theorem result_throw (e : ε) :
    result (throw e : ExceptT ε (StateM σ) α) s = (.error e, s) := rfl

@[simp] theorem result_throw_bind (e : ε) (f : α → ExceptT ε (StateM σ) β) :
    result (throw e >>= f) s = (.error e, s) := rfl

@[simp] theorem result_get_bind (f : σ → ExceptT ε (StateM σ) α) :
    result (get >>= f) s = result (f s) s := rfl

@[simp] theorem result_set_bind (next : σ) (f : PUnit → ExceptT ε (StateM σ) α) :
    result (set next >>= f) s = result (f ⟨⟩) next := rfl

@[simp] theorem result_modify (f : σ → σ) :
    result (modify f : ExceptT ε (StateM σ) PUnit) s = (.ok ⟨⟩, f s) := rfl

theorem result_ite (c : Prop) [Decidable c] (x y : ExceptT ε (StateM σ) α) :
    result (if c then x else y) s = if c then result x s else result y s := by
  split <;> rfl

theorem result_bind (x : ExceptT ε (StateM σ) α) (f : α → ExceptT ε (StateM σ) β) :
    result (x >>= f) s =
      match result x s with
      | (.ok a, next) => result (f a) next
      | (.error e, next) => (.error e, next) := by
  unfold result
  rw [ExceptT.run_bind, StateT.run_bind]
  show (match x.run.run s with | (outcome, next) => _) = _
  obtain ⟨outcome, next⟩ := x.run.run s
  cases outcome <;> rfl

theorem result_tryCatch (x : ExceptT ε (StateM σ) α) (handle : ε → ExceptT ε (StateM σ) α) :
    result (tryCatch x handle) s =
      match result x s with
      | (.ok a, next) => (.ok a, next)
      | (.error e, next) => result (handle e) next := by
  unfold result
  rw [ExceptT.run_tryCatch, StateT.run_bind]
  show (match x.run.run s with | (outcome, next) => _) = _
  obtain ⟨outcome, next⟩ := x.run.run s
  cases outcome <;> rfl

theorem result_map (f : α → β) (x : ExceptT ε (StateM σ) α) :
    result (f <$> x) s = ((result x s).1.map f, (result x s).2) := by
  unfold result
  rw [ExceptT.run_map, StateT.run_map]
  rfl

/-! ## Sequences -/

/-- A sequence succeeds if its parts do, one after the other. -/
theorem bind_ok {x : ExceptT ε (StateM σ) α} {f : α → ExceptT ε (StateM σ) β} {b : β} :
    result (x >>= f) s = (.ok b, s') ↔
      ∃ a next, result x s = (.ok a, next) ∧ result (f a) next = (.ok b, s') := by
  rw [result_bind]
  obtain ⟨outcome, next⟩ := result x s
  constructor
  · intro h
    cases outcome with
    | error e => simp at h
    | ok a => exact ⟨a, next, rfl, h⟩
  · rintro ⟨a, other, hx, h⟩
    cases hx
    exact h

/-- A sequence fails in its first part, or in its second part after the first one. -/
theorem bind_error {x : ExceptT ε (StateM σ) α} {f : α → ExceptT ε (StateM σ) β} {e : ε} :
    result (x >>= f) s = (.error e, s') ↔
      result x s = (.error e, s') ∨
        ∃ a next, result x s = (.ok a, next) ∧ result (f a) next = (.error e, s') := by
  rw [result_bind]
  obtain ⟨outcome, next⟩ := result x s
  constructor
  · intro h
    cases outcome with
    | error cause =>
      obtain ⟨rfl, rfl⟩ : cause = e ∧ next = s' := by simpa using h
      exact .inl rfl
    | ok a => exact .inr ⟨a, next, rfl, h⟩
  · rintro (h | ⟨a, other, hx, h⟩)
    · cases h
      rfl
    · cases hx
      exact h

theorem map_ok {f : α → β} {x : ExceptT ε (StateM σ) α} {b : β} :
    result (f <$> x) s = (.ok b, s') ↔ ∃ a, result x s = (.ok a, s') ∧ f a = b := by
  rw [result_map]
  obtain ⟨outcome, next⟩ := result x s
  cases outcome with
  | error e => simp [Except.map]
  | ok a =>
    constructor
    · intro h
      obtain ⟨rfl, rfl⟩ : f a = b ∧ next = s' := by simpa [Except.map] using h
      exact ⟨a, rfl, rfl⟩
    · rintro ⟨other, hx, rfl⟩
      cases hx
      rfl

theorem forM_error {f : α → ExceptT ε (StateM σ) PUnit} {l : List α} {e : ε}
    (h : result (l.forM f) s = (.error e, s')) :
    ∃ a ∈ l, ∃ before, result (f a) before = (.error e, s') := by
  induction l generalizing s with
  | nil => cases h
  | cons a rest ih =>
    unfold List.forM at h
    rcases bind_error.mp h with h | ⟨_, next, -, h⟩
    · exact ⟨a, List.mem_cons_self, s, h⟩
    · obtain ⟨b, hb, before, hbefore⟩ := ih h
      exact ⟨b, List.mem_cons_of_mem a hb, before, hbefore⟩

/-! ## Results of pure computations -/

variable {w w' : Workspace}

@[simp] theorem mapError_ok {δ : Type} (wrap : ε → δ) (a : α) :
    (Except.ok a : Except ε α).mapError wrap = .ok a := rfl

theorem mapError_eq_ok {δ : Type} {wrap : ε → δ} {x : Except ε α} {a : α} :
    x.mapError wrap = .ok a ↔ x = .ok a := by
  cases x with
  | ok b => simp only [mapError_ok, Except.ok.injEq]
  | error e => exact ⟨nofun, nofun⟩

theorem map_eq_ok {f : α → β} {x : Except ε α} {b : β} :
    x.map f = .ok b ↔ ∃ a, x = .ok a ∧ f a = b := by
  cases x <;> simp [Except.map]

theorem except_bind_ok {x : Except ε α} {f : α → Except ε β} {b : β} :
    x >>= f = .ok b ↔ ∃ a, x = .ok a ∧ f a = .ok b := by
  cases x <;> simp [bind, Except.bind]

@[simp] theorem result_ofExcept (wrap : ε → Error) (x : Except ε α) :
    result (Workspace.ofExcept wrap x) w = (x.mapError wrap, w) := by
  cases x <;> rfl

@[simp] theorem result_ofExcept_bind (wrap : ε → Error) (x : Except ε α) (f : α → Action β) :
    result (Workspace.ofExcept wrap x >>= f) w =
      match x with
      | .ok a => result (f a) w
      | .error e => (.error (wrap e), w) := by
  cases x <;> rfl

theorem ofExcept_bind_ok {wrap : ε → Error} {x : Except ε α} {f : α → Action β} {b : β} :
    result (Workspace.ofExcept wrap x >>= f) w = (.ok b, w') ↔
      ∃ a, x = .ok a ∧ result (f a) w = (.ok b, w') := by
  rw [result_ofExcept_bind]
  cases x <;> simp

theorem ofExcept_bind_error {wrap : ε → Error} {x : Except ε α} {f : α → Action β} {e : Error} :
    result (Workspace.ofExcept wrap x >>= f) w = (.error e, w') ↔
      (∃ cause, x = .error cause ∧ wrap cause = e ∧ w' = w) ∨
        ∃ a, x = .ok a ∧ result (f a) w = (.error e, w') := by
  rw [result_ofExcept_bind]
  cases x <;> simp [eq_comm]

/-! ## Requests to Excel and records of the log -/

theorem result_withExcel (action : ExcelAction α) (w : Workspace) :
    result (Workspace.withExcel action) w =
      ((result action w.excel).1.mapError .fault,
        { w with excel := (result action w.excel).2 }) := by
  have hrun : action.run.run w.excel = result action w.excel := rfl
  unfold Workspace.withExcel
  rw [result_get_bind, hrun]
  obtain ⟨outcome, excel⟩ := result action w.excel
  cases outcome <;> rfl

theorem result_report (records : List LogRecord) (w : Workspace) :
    result (Workspace.report records) w =
      (.ok (), { w with
        log := w.log ++ records
        files := match w.logFile with
          | some f => Workspace.writeRecords f records w.files
          | none => w.files }) := rfl

end WorkbookTools.Action
