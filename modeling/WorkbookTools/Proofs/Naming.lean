import Mathlib.Data.List.TakeWhile
import WorkbookTools.Naming
import WorkbookTools.Proofs.Action
import WorkbookTools.Proofs.FileSystem.Resolution

/-!
# Where a new workbook goes

A new workbook goes to the path that was asked for, or to the first free numbered name beside it.
The numbered path has the same parent and the same suffix.

* `destination_cases`: the destinations of all policies.
* `suffix_numbered`, `isName_numbered`: what a numbered name keeps.
-/

namespace WorkbookTools

namespace Path

variable {p : Path}

/-! ## Stem and suffix -/

/-- A name is its stem followed by its suffix. The suffix, if there is one, is a dot and what follows
the last dot. -/
theorem splitName_spec (name : String) :
    (splitName name).1 ++ (splitName name).2 = name ∧
      ((splitName name).2 = "" ∨ ∃ extension, (splitName name).2 = String.ofList ('.' :: extension) ∧
        extension ≠ [] ∧ ∀ c ∈ extension, c ≠ '.') := by
  have hsplit := List.takeWhile_append_dropWhile (p := (· ≠ '.')) (l := name.toList.reverse)
  unfold splitName
  simp only
  split
  · next stem hdrop =>
    split
    · exact ⟨String.append_empty, .inl rfl⟩
    · next hparts =>
      obtain ⟨-, hextension⟩ := not_or.mp hparts
      refine ⟨?_, .inr ⟨_, rfl, by simpa using hextension, ?_⟩⟩
      · rw [hdrop] at hsplit
        have hname := congrArg List.reverse hsplit
        rw [List.reverse_reverse] at hname
        refine String.toList_injective ?_
        rw [List.reverse_append, List.reverse_cons, List.append_assoc] at hname
        rw [String.toList_append, String.toList_ofList, String.toList_ofList]
        exact hname
      · intro c hc
        simpa using List.mem_takeWhile_imp (List.mem_reverse.mp hc)
  · exact ⟨String.append_empty, .inl rfl⟩

/-- A name that ends with a dot and an extension has these as its suffix, if a stem comes before. -/
theorem splitName_append {stem : String} {extension : List Char} (hstem : stem ≠ "")
    (hextension : extension ≠ []) (hdots : ∀ c ∈ extension, c ≠ '.') :
    splitName (stem ++ String.ofList ('.' :: extension)) =
      (stem, String.ofList ('.' :: extension)) := by
  have hreverse : (stem ++ String.ofList ('.' :: extension)).toList.reverse =
      extension.reverse ++ '.' :: stem.toList.reverse := by simp
  have hall : ∀ c ∈ extension.reverse, decide (c ≠ '.') := by
    intro c hc
    exact decide_eq_true (hdots c (List.mem_reverse.mp hc))
  have htake : (extension.reverse ++ '.' :: stem.toList.reverse).takeWhile (· ≠ '.') =
      extension.reverse := by
    rw [List.takeWhile_append_of_pos hall, List.takeWhile_cons_of_neg (by simp), List.append_nil]
  have hdrop : (extension.reverse ++ '.' :: stem.toList.reverse).dropWhile (· ≠ '.') =
      '.' :: stem.toList.reverse := by
    rw [List.dropWhile_append_of_pos hall, List.dropWhile_cons_of_neg (by simp)]
  unfold splitName
  simp only [hreverse, htake, hdrop]
  have hparts : ¬ (stem.toList.reverse = [] ∨ extension.reverse = []) := by
    simp [hstem, hextension]
  rw [if_neg hparts]
  simp

/-! ## Numbered names -/

theorem name_withName (p : Path) (name : String) : (p.withName name).name = name := by
  simp [withName, Path.name]

theorem parts_numbered (p : Path) (n : Nat) :
    (p.numbered n).parts = p.parent.parts ++ [(p.numbered n).name] := by
  rw [numbered, name_withName]
  rfl

/-- A numbered path has the suffix of the path. -/
theorem suffix_numbered (hsuffix : p.suffix ≠ "") (n : Nat) : (p.numbered n).suffix = p.suffix := by
  rcases (splitName_spec p.name).2 with hnone | ⟨extension, hextension, hsome, hdots⟩
  · exact absurd hnone hsuffix
  · have hstem : p.stem ++ "_" ++ toString n ≠ "" := by simp
    have hsplit := splitName_append hstem hsome hdots
    rw [← hextension] at hsplit
    unfold suffix
    rw [numbered, name_withName]
    unfold suffix
    rw [hsplit]

theorem isName_numbered (h : '\x00' ∉ p.name.toList) (n : Nat) :
    FileSystem.IsName (p.numbered n).name := by
  have hunderscore : '_' ∈ (p.numbered n).name.toList := by
    simp [numbered, name_withName]
  have hplain : (p.numbered n).name ≠ "" ∧ (p.numbered n).name ≠ "." ∧
      (p.numbered n).name ≠ ".." := by
    refine ⟨?_, ?_, ?_⟩ <;> intro hname <;> rw [hname] at hunderscore <;> revert hunderscore <;>
      decide
  refine ⟨hplain.1, hplain.2.1, hplain.2.2, fun hnul => ?_⟩
  have hsame := (splitName_spec p.name).1
  have hstem : '\x00' ∉ p.stem.toList := by
    intro hmem
    rw [← hsame, String.toList_append] at h
    exact h (List.mem_append_left _ hmem)
  have hsuffix : '\x00' ∉ p.suffix.toList := by
    intro hmem
    rw [← hsame, String.toList_append] at h
    exact h (List.mem_append_right _ hmem)
  rw [numbered, name_withName] at hnul
  simp only [String.toList_append, List.mem_append] at hnul
  rcases hnul with ((hmem | hmem) | hmem) | hmem
  · exact hstem hmem
  · revert hmem
    decide
  · have hdigits : (toString n).toList = Nat.toDigits 10 n := Nat.toList_repr
    rw [hdigits] at hmem
    have hdigit := Nat.isDigit_of_mem_toDigits (by decide) (by decide) hmem
    revert hdigit
    decide
  · exact hsuffix hmem

end Path

/-! ## Destinations -/

section

variable {ε : Type} {present : Path → Except ε Bool} {fail : NamingError → ε} {p : Path}

theorem firstFree_some {numbers : List Nat} {free : Path}
    (h : firstFree present p numbers = .ok (some free)) :
    (∃ n, free = p.numbered n) ∧ present free = .ok false := by
  induction numbers with
  | nil => cases h
  | cons n rest ih =>
    unfold firstFree at h
    cases hpresent : present (p.numbered n) with
    | error e =>
      rw [hpresent] at h
      cases h
    | ok isPresent =>
      rw [hpresent] at h
      cases isPresent with
      | true => exact ih h
      | false =>
        cases h
        exact ⟨⟨n, rfl⟩, hpresent⟩

/-- The path itself if nothing is there, or the first free numbered one. -/
theorem nextAvailable_ok {free : Path} (h : nextAvailable present fail p = .ok free)
    (hpresent : present p = .ok true) :
    p.parts ≠ [] ∧ (∃ n, free = p.numbered n) ∧ present free = .ok false := by
  unfold nextAvailable at h
  obtain ⟨isPresent, hsame, h⟩ := Action.except_bind_ok.mp h
  rw [hpresent] at hsame
  cases hsame
  rw [if_pos rfl] at h
  by_cases hroot : p.parts = []
  · rw [if_pos hroot] at h
    cases h
  · rw [if_neg hroot] at h
    obtain ⟨found, hfound, h⟩ := Action.except_bind_ok.mp h
    cases found with
    | none => cases h
    | some other =>
      cases h
      exact ⟨hroot, firstFree_some hfound⟩

/-- All destinations that there are. -/
theorem destination_cases {onConflict : ConflictPolicy} {target : Destination}
    (h : destination present fail onConflict p = .ok target) :
    (present p = .ok false ∧ target.path = p ∧ target.skipped = false) ∨
      (present p = .ok true ∧ onConflict = .skip ∧ target.path = p ∧ target.skipped = true) ∨
      (present p = .ok true ∧ onConflict = .overwrite ∧ target.path = p ∧
        target.skipped = false) ∨
      (present p = .ok true ∧ onConflict = .rename ∧ p.parts ≠ [] ∧
        (∃ n, target.path = p.numbered n) ∧ present target.path = .ok false ∧
        target.skipped = false) := by
  unfold destination at h
  obtain ⟨isPresent, hpresent, h⟩ := Action.except_bind_ok.mp h
  cases isPresent with
  | false =>
    cases h
    exact .inl ⟨hpresent, rfl, rfl⟩
  | true =>
    rw [if_pos rfl] at h
    refine .inr ?_
    cases onConflict with
    | skip =>
      cases h
      exact .inl ⟨hpresent, rfl, rfl, rfl⟩
    | overwrite =>
      cases h
      exact .inr (.inl ⟨hpresent, rfl, rfl, rfl⟩)
    | rename =>
      obtain ⟨free, hfree, htarget⟩ := Action.except_bind_ok.mp h
      cases htarget
      obtain ⟨hroot, hnumbered, habsent⟩ := nextAvailable_ok hfree hpresent
      exact .inr (.inr ⟨hpresent, rfl, hroot, hnumbered, habsent, rfl⟩)

end

end WorkbookTools
