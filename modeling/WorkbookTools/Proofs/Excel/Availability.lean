import WorkbookTools.Proofs.Excel.Instances

/-!
# Finding out about Excel

Whether Excel can be used is answered on every computer but those where its library is asked for,
is there and fails. An instance that does not start, or does not quit, only changes the answer.

* `brokenLibrary?`: the failure that keeps the question from being answered.
* `availability_error_iff`: there is no answer if and only if the library is broken.
-/

namespace WorkbookTools

open WorkbookTools.Action

namespace Excel

variable {x : Excel} {f : Fault}

/-- The failure of the library, if it is asked for and fails otherwise than by being absent. -/
def brokenLibrary? (x : Excel) : Option Fault :=
  x.setup.libraryFault.filter fun f =>
    x.setup.skip ≠ some "1" ∧ x.setup.platform = "win32" ∧ f.family ≠ .missingLibrary

theorem brokenLibrary?_eq_some : x.brokenLibrary? = some f ↔
    x.setup.libraryFault = some f ∧ x.setup.skip ≠ some "1" ∧ x.setup.platform = "win32" ∧
      f.family ≠ .missingLibrary := by
  simp only [brokenLibrary?, Option.filter_eq_some_iff, decide_eq_true_eq]

theorem availability_of_broken (h : x.brokenLibrary? = some f) :
    result availability x = (.error f, x) := by
  obtain ⟨hlibrary, hskip, hplatform, hfamily⟩ := brokenLibrary?_eq_some.mp h
  unfold availability
  rw [result_get_bind]
  simp only [if_neg hskip, hplatform, ne_eq, not_true_eq_false, if_false, hlibrary, if_neg hfamily]
  rfl

theorem availability_of_not_broken (h : x.brokenLibrary? = none) :
    ∃ a, (result availability x).1 = .ok a := by
  unfold availability
  rw [result_get_bind]
  simp only [result_ite]
  split
  · exact ⟨_, rfl⟩
  · next hskip =>
    split
    · exact ⟨_, rfl⟩
    · next hplatform =>
      cases hlibrary : x.setup.libraryFault with
      | none =>
        rw [result_probe]
        cases x.fault? .start <;> exact ⟨_, rfl⟩
      | some f =>
        have hfamily : f.family = .missingLibrary := by
          by_contra hfamily
          have hbroken : x.brokenLibrary? = some f :=
            brokenLibrary?_eq_some.mpr ⟨hlibrary, hskip, not_not.mp hplatform, hfamily⟩
          rw [h] at hbroken
          cases hbroken
        simp only [if_pos hfamily]
        exact ⟨_, rfl⟩

/-- Finding out about Excel fails if and only if the library is broken. -/
theorem availability_error_iff :
    (result availability x).1 = .error f ↔ x.brokenLibrary? = some f := by
  cases hbroken : x.brokenLibrary? with
  | none =>
    obtain ⟨a, ha⟩ := availability_of_not_broken hbroken
    rw [ha]
    exact ⟨nofun, nofun⟩
  | some g =>
    rw [availability_of_broken hbroken]
    simp

/-- A question for Excel that is answered is answered whenever Excel has this setup. -/
theorem availability_of_setup {x y : Excel} {a : Availability} (hsetup : y.setup = x.setup)
    (h : (result availability x).1 = .ok a) :
    ∃ b, (result availability y).1 = .ok b := by
  refine availability_of_not_broken (Option.eq_none_iff_forall_ne_some.mpr fun f hbroken => ?_)
  have hsame : x.brokenLibrary? = some f := by
    rwa [brokenLibrary?, ← hsetup]
  rw [availability_of_broken hsame] at h
  cases h

end Excel

end WorkbookTools
