import WorkbookTools.Proofs.Action

/-!
# What holds of every outcome

A property may hold of every value that an action gives, or of every error that it fails with, from
whatever state it starts. Both pass through the ways of building actions.

* `Gives`: what holds of the value of an action whenever it succeeds.
* `FailsWith`: what holds of the error of an action whenever it fails.
-/

namespace WorkbookTools.Action

variable {ε σ α β : Type} {p : α → Prop} {q : β → Prop} {r r' : ε → Prop}

/-! ## Values -/

/-- Whenever the action succeeds, its value has the property. -/
def Gives (q : α → Prop) (x : ExceptT ε (StateM σ) α) : Prop :=
  ∀ s a s', result x s = (.ok a, s') → q a

namespace Gives

theorem any (x : ExceptT ε (StateM σ) α) : Gives (fun _ => True) x := fun _ _ _ _ => trivial

theorem pure {b : β} (h : q b) : Gives q (Pure.pure b : ExceptT ε (StateM σ) β) := by
  intro s a s' ha
  cases ha
  exact h

theorem throw (e : ε) : Gives q (MonadExcept.throw e : ExceptT ε (StateM σ) β) := nofun

theorem bind {x : ExceptT ε (StateM σ) α} {f : α → ExceptT ε (StateM σ) β} (hx : Gives p x)
    (hf : ∀ a, p a → Gives q (f a)) : Gives q (x >>= f) := by
  intro s b s' hb
  obtain ⟨a, next, ha, hb⟩ := bind_ok.mp hb
  exact hf a (hx s a next ha) next b s' hb

/-- Only what comes last matters. -/
theorem after {x : ExceptT ε (StateM σ) α} {f : α → ExceptT ε (StateM σ) β}
    (hf : ∀ a, Gives q (f a)) : Gives q (x >>= f) :=
  bind (any x) fun a _ => hf a

theorem tryCatch {x : ExceptT ε (StateM σ) β} {handle : ε → ExceptT ε (StateM σ) β}
    (hx : Gives q x) (hhandle : ∀ e, Gives q (handle e)) :
    Gives q (MonadExcept.tryCatch x handle) := by
  intro s b s' hb
  rw [result_tryCatch] at hb
  cases hresult : result x s with
  | mk outcome next =>
    rw [hresult] at hb
    cases outcome with
    | ok a =>
      cases hb
      exact hx s _ _ hresult
    | error e => exact hhandle e next b s' hb

end Gives

/-! ## Errors -/

/-- Whenever the action fails, its error has the property. -/
def FailsWith (r : ε → Prop) (x : ExceptT ε (StateM σ) α) : Prop :=
  ∀ s e s', result x s = (.error e, s') → r e

namespace FailsWith

theorem pure (a : α) : FailsWith r (Pure.pure a : ExceptT ε (StateM σ) α) := nofun

theorem throw {e : ε} (h : r e) : FailsWith r (MonadExcept.throw e : ExceptT ε (StateM σ) α) := by
  intro s e' s' he
  cases he
  exact h

theorem bind {x : ExceptT ε (StateM σ) α} {f : α → ExceptT ε (StateM σ) β} (hx : FailsWith r x)
    (hf : ∀ a, FailsWith r (f a)) : FailsWith r (x >>= f) := by
  intro s e s' he
  rcases bind_error.mp he with he | ⟨a, next, -, he⟩
  · exact hx s e s' he
  · exact hf a next e s' he

/-- What a handler is given is a failure of the action. -/
theorem tryCatch {x : ExceptT ε (StateM σ) α} {handle : ε → ExceptT ε (StateM σ) α}
    (hx : FailsWith r' x) (hhandle : ∀ e, r' e → FailsWith r (handle e)) :
    FailsWith r (MonadExcept.tryCatch x handle) := by
  intro s e s' he
  rw [result_tryCatch] at he
  cases hresult : result x s with
  | mk outcome next =>
    rw [hresult] at he
    cases outcome with
    | ok a => cases he
    | error cause => exact hhandle cause (hx s cause next hresult) next e s' he

end FailsWith

end WorkbookTools.Action
