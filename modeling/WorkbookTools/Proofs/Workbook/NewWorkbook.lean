import WorkbookTools.Proofs.Workbook.Markup
import WorkbookTools.Proofs.Workbook.Readable

/-!
# New workbooks

A new workbook has one empty sheet. It gets the title that was asked for, unless this is the initial
title in other letters: then a number is added. The workbook can always be saved, and it can be
opened again if no character of the title is foreign to markup.

* `firstTitle_eq_self_iff`: when the title is the one that was asked for.
* `stored_single`: what the file of a new workbook holds.
-/

namespace WorkbookTools

namespace Text

/-- But for few characters, two of them have the same lower case just if a search takes them for the
same. -/
theorem searchClass_eq_lowerClass {c : Char} (hdotted : c ≠ 'İ') (hshared : c.toNat ∉ sharedForms) :
    searchClass c = lowerClass c := by
  rw [searchClass, if_neg hdotted, lowerClass, if_neg hshared]
  cases furtherCapitals.lookup c.toNat <;> rfl

/-- The upper-case forms of the letters of the initial title. -/
def initialLetters : List Char := ['S', 'H', 'E', 'T']

theorem searchClass_of_lowerClass {c x : Char} (hx : x ∈ initialLetters) (hdotted : c ≠ 'İ')
    (h : lowerClass c = [x]) : searchClass c = [x] := by
  by_cases hshared : c.toNat ∈ sharedForms
  · rw [lowerClass, if_pos hshared] at h
    obtain rfl := List.singleton_inj.mp h
    have hnot : initialLetters.all fun letter => letter.toNat ∉ sharedForms := by decide +kernel
    exact absurd hshared (of_decide_eq_true (List.all_eq_true.mp hnot c hx))
  · rw [searchClass_eq_lowerClass hdotted hshared, h]

/-- Neither a final sigma nor a dotted capital has one of the letters as its lower-case form. -/
theorem lowerClassesAfter_cons {c x : Char} {rest before : List Char} {others : List (List Char)}
    (hx : x ∈ initialLetters) (h : lowerClassesAfter before (c :: rest) = [x] :: others) :
    c ≠ 'İ' ∧ lowerClass c = [x] ∧ lowerClassesAfter (c :: before) rest = others := by
  have hletters : initialLetters.all fun x =>
      ['ς', 'σ', 'i'].all fun special => lowerClass special ≠ [x] := by
    decide +kernel
  have hspecial : ∀ special ∈ ['ς', 'σ', 'i'], lowerClass special ≠ [x] := fun special hmem =>
    of_decide_eq_true (List.all_eq_true.mp (List.all_eq_true.mp hletters x hx) special hmem)
  unfold lowerClassesAfter at h
  simp only at h
  split at h
  · exfalso
    have hhead := (List.cons.inj h).1
    split at hhead
    · exact hspecial 'ς' (by decide) hhead
    · exact hspecial 'σ' (by decide) hhead
  · split at h
    · exact absurd (List.cons.inj h).1 (hspecial 'i' (by decide))
    · next hdotted => exact ⟨hdotted, List.cons.inj h⟩

/-- A text whose lower-case form is spelled with the letters is found by a search for them. -/
theorem map_searchClass_of_lower {letters s before : List Char}
    (hletters : ∀ x ∈ letters, x ∈ initialLetters)
    (h : lowerClassesAfter before s = letters.map fun x => [x]) :
    s.map searchClass = letters.map fun x => [x] := by
  induction letters generalizing s before with
  | nil =>
    cases s with
    | nil => rfl
    | cons c rest =>
      unfold lowerClassesAfter at h
      simp only at h
      split at h
      · cases h
      · split at h <;> cases h
  | cons x others ih =>
    obtain ⟨hx, hothers⟩ := List.forall_mem_cons.mp hletters
    cases s with
    | nil => cases h
    | cons c rest =>
      obtain ⟨hdotted, hlower, hrest⟩ := lowerClassesAfter_cons hx h
      rw [List.map_cons, List.map_cons, searchClass_of_lowerClass hx hdotted hlower,
        ih hothers hrest]

end Text

namespace Workbook

open Text

/-- A title that is the initial one in lower case is found by a search for the initial one. -/
theorem isSameInSearch_of_isSameLower {s : List Char}
    (h : isSameLower initialTitle.toList s) :
    isSameInSearch initialTitle.toList s ∧ s.length = initialTitle.length := by
  have hinitial : lowerClassesAfter [] initialTitle.toList =
      ['S', 'H', 'E', 'E', 'T'].map fun x => [x] := by decide +kernel
  have hsearch : initialTitle.toList.map searchClass =
      ['S', 'H', 'E', 'E', 'T'].map fun x => [x] := by decide +kernel
  have hlower : lowerClassesAfter [] s = ['S', 'H', 'E', 'E', 'T'].map fun x => [x] := by
    rw [← hinitial]
    exact (of_decide_eq_true h).symm
  have hmap := map_searchClass_of_lower (by simp [initialLetters]) hlower
  refine ⟨decide_eq_true (hsearch.trans hmap.symm), ?_⟩
  have hlength := congrArg List.length hmap
  rw [List.length_map] at hlength
  rw [hlength]
  rfl

/-- A title that differs from the initial one in case only gets a number. -/
theorem freshTitle_initial {title : String}
    (h : isSameLower initialTitle.toList title.toList) :
    ∃ n : Nat, freshTitle [initialTitle] title = title ++ toString n := by
  obtain ⟨hsearch, hlength⟩ := isSameInSearch_of_isSameLower h
  have hrow : (String.intercalate "," [initialTitle]).toList = initialTitle.toList := by
    decide +kernel
  obtain ⟨c, rest, hcons⟩ : ∃ c rest, initialTitle.toList = c :: rest := ⟨_, _, rfl⟩
  have hnumbers : numbersAfter title initialTitle.toList ≠ [] := by
    have htake : initialTitle.toList.take title.length = initialTitle.toList := by
      refine List.take_of_length_le (Nat.le_of_eq ?_)
      rw [← String.length_toList (s := title), hlength, String.length_toList]
    rw [hcons] at htake hsearch ⊢
    rw [numbersAfter, htake, if_pos hsearch]
    exact List.cons_ne_nil _ _
  obtain ⟨greatest, hgreatest⟩ := Option.isSome_iff_exists.mp (List.isSome_max?_of_ne_nil hnumbers)
  refine ⟨greatest + 1, ?_⟩
  rw [freshTitle, hrow, hgreatest, if_pos (by simpa using h)]

/-- The first sheet has the title that was asked for, unless this is the initial title in other
letters. -/
theorem firstTitle_eq_self_iff {title first : String} (h : firstTitle title = .ok first) :
    first = title ↔
      title = initialTitle ∨ ¬ isSameLower initialTitle.toList title.toList := by
  unfold firstTitle at h
  split at h
  · cases h
  · split at h
    · cases h
    · split at h
      · next hinitial =>
        cases h
        exact ⟨fun _ => .inl hinitial, fun _ => rfl⟩
      · next hinitial =>
        cases h
        by_cases hlower : isSameLower initialTitle.toList title.toList
        · obtain ⟨n, hn⟩ := freshTitle_initial hlower
          rw [hn]
          refine ⟨fun hsame => ?_, fun hor => ?_⟩
          · simp at hsame
          · exact absurd hlower (hor.resolve_left hinitial)
        · refine ⟨fun _ => .inr hlower, fun _ => ?_⟩
          rw [freshTitle, if_neg (by simpa using hlower)]

/-! ## The file of a new workbook -/

/-- A file with one empty sheet. -/
def storedSingle (title : String) : StoredWorkbook :=
  ⟨[⟨title, Sheet.empty, .none, none⟩], titleFault? ⟨[(title, Sheet.empty)]⟩⟩

/-- A new workbook can be saved. -/
theorem stored_single (title : String) :
    stored ⟨[(title, Sheet.empty)]⟩ = .ok (storedSingle title) := by
  have hsheets : ∀ styles, storedSheets styles [(title, Sheet.empty)] =
      .ok [⟨title, Sheet.empty, .none, none⟩] := fun _ => rfl
  have hfont : fontFault? ⟨[(title, Sheet.empty)]⟩ = none := rfl
  have hfault : ∀ fault : Option Text.Position, (fault <|> none) = fault := by
    intro fault
    cases fault <;> rfl
  unfold stored
  rw [hsheets, hfont, hfault]
  rfl

theorem fault_storedSingle (title : String) :
    (storedSingle title).fault = none ↔ ∀ x ∈ title.toList, ¬ Markup.isForeign x := by
  rw [storedSingle]
  constructor
  · intro hnone x hx hforeign
    refine Markup.faultIn?_titles (List.mem_singleton_self title) hforeign hx ?_
    have hany : title.toList.any Markup.isForeign := List.any_eq_true.mpr ⟨x, hx, hforeign⟩
    simpa [titleFault?, titles, hany] using hnone
  · intro hclean
    exact if_neg (by simpa [titles] using hclean)

theorem read_storedSingle (title : String) :
    (storedSingle title).read = .ok ⟨[(title, Sheet.empty)]⟩ := rfl

end Workbook

end WorkbookTools
