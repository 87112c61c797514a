import Mathlib
import WorkbookTools.Text.UpperCase

/-!
# Characters whose upper-case form consists of ASCII letters

Besides the ASCII letters themselves there are ten such characters. `upperWord?` looks for them one
character after the other, which comes to the same as taking the upper-case form of the whole text
and looking at it afterwards.

* `isSome_upperLetters?`: the characters with an upper-case form of ASCII letters.
* `exists_not_isAlpha_of_upperLetters?`: the upper-case form of any other character has another
  character in it.
* `upperWord?_eq_some_iff`: a word is the upper-case form of the text.
-/

namespace WorkbookTools.Text

/-! ## ASCII letters -/

/-- What holds of the capital and of the small letters holds of all ASCII letters. -/
theorem forall_isAlpha {P : Char → Prop} (capital : ∀ d : Fin 26, P (Char.ofNat (65 + d)))
    (small : ∀ d : Fin 26, P (Char.ofNat (97 + d))) {c : Char} (h : c.isAlpha = true) : P c := by
  rcases Bool.or_eq_true_iff.mp h with hupper | hlower
  · have hrange : 65 ≤ c.val ∧ c.val ≤ 90 := of_decide_eq_true hupper
    have hlow : 65 ≤ c.toNat := hrange.1
    have hhigh : c.toNat ≤ 90 := hrange.2
    have hletter := capital ⟨c.toNat - 65, by omega⟩
    have hcode : 65 + (c.toNat - 65) = c.toNat := by omega
    rwa [hcode, Char.ofNat_toNat] at hletter
  · have hlow : 97 ≤ c.toNat := of_decide_eq_true (Bool.and_eq_true_iff.mp hlower).1
    have hhigh : c.toNat ≤ 122 := of_decide_eq_true (Bool.and_eq_true_iff.mp hlower).2
    have hletter := small ⟨c.toNat - 97, by omega⟩
    have hcode : 97 + (c.toNat - 97) = c.toNat := by omega
    rwa [hcode, Char.ofNat_toNat] at hletter

theorem isAlpha_ofNat {n : Nat} (h : 122 < n) : (Char.ofNat n).isAlpha = false := by
  rw [Bool.eq_false_iff]
  intro halpha
  have hcode : (Char.ofNat n).toNat ≤ 122 ∧ 65 ≤ (Char.ofNat n).toNat :=
    forall_isAlpha (P := fun c => c.toNat ≤ 122 ∧ 65 ≤ c.toNat) (by decide) (by decide) halpha
  rw [Char.toNat_ofNat] at hcode
  split at hcode <;> omega

/-! ## The characters with a form of ASCII letters -/

/-- The characters outside ASCII whose upper-case form consists of ASCII letters. -/
def ligatures : List Char := ['ß', 'ı', 'ſ', 'ﬀ', 'ﬁ', 'ﬂ', 'ﬃ', 'ﬄ', 'ﬅ', 'ﬆ']

theorem upperLetters?_of_isAlpha {c : Char} (h : c.isAlpha = true) :
    upperLetters? c = some [c.toUpper] := by
  rw [upperLetters?, if_pos h]

theorem mem_ligatures_of_upperLetters? {c : Char} {letters : List Char}
    (h : upperLetters? c = some letters) (halpha : ¬ c.isAlpha = true) : c ∈ ligatures := by
  rw [upperLetters?, if_neg halpha] at h
  rw [← Char.ofNat_toNat c]
  split at h
  case h_11 => cases h
  all_goals
    rename_i hcode
    rw [hcode]
    decide

/-- The characters with an upper-case form of ASCII letters. -/
theorem isSome_upperLetters? {c : Char} :
    (upperLetters? c).isSome = true ↔ c.isAlpha = true ∨ c ∈ ligatures := by
  constructor
  · intro h
    obtain ⟨letters, hletters⟩ := Option.isSome_iff_exists.mp h
    by_cases halpha : c.isAlpha = true
    · exact .inl halpha
    · exact .inr (mem_ligatures_of_upperLetters? hletters halpha)
  · rintro (halpha | hligature)
    · rw [upperLetters?_of_isAlpha halpha]
      rfl
    · have hall : ligatures.all (fun c => (upperLetters? c).isSome) = true := by decide
      exact List.all_eq_true.mp hall c hligature

theorem not_isAlpha_of_mem_ligatures {c : Char} (h : c ∈ ligatures) : c.isAlpha = false := by
  have hall : ligatures.all (fun c => !c.isAlpha) = true := by decide
  have hforeign := List.all_eq_true.mp hall c h
  rwa [Bool.not_eq_true'] at hforeign

theorem upperForm_of_upperLetters? {c : Char} {letters : List Char}
    (h : upperLetters? c = some letters) : upperForm c = letters := by
  rw [upperForm, h]

theorem upperForm_of_isAlpha {c : Char} (h : c.isAlpha = true) : upperForm c = [c.toUpper] :=
  upperForm_of_upperLetters? (upperLetters?_of_isAlpha h)

/-- A form that is made of ASCII letters has at least one, and has capitals only. -/
theorem isUpper_of_upperLetters? {c : Char} {letters : List Char}
    (h : upperLetters? c = some letters) : letters ≠ [] ∧ ∀ x ∈ letters, x.isUpper = true := by
  by_cases halpha : c.isAlpha = true
  · rw [upperLetters?_of_isAlpha halpha] at h
    cases h
    exact ⟨List.cons_ne_nil _ _, by simpa using halpha⟩
  · have hall : ligatures.all (fun c =>
        (upperLetters? c).all fun l => l ≠ [] ∧ l.all Char.isUpper) = true := by decide
    have hform := List.all_eq_true.mp hall c (mem_ligatures_of_upperLetters? h halpha)
    simpa [h] using hform

theorem upperForm_letters {c : Char} (h : c.isAlpha = true ∨ c ∈ ligatures) :
    upperForm c ≠ [] ∧ ∀ x ∈ upperForm c, x.isUpper = true := by
  obtain ⟨letters, hletters⟩ := Option.isSome_iff_exists.mp (isSome_upperLetters?.mpr h)
  rw [upperForm_of_upperLetters? hletters]
  exact isUpper_of_upperLetters? hletters

/-- The forms of all other characters go outside the ASCII letters. -/
theorem exists_not_isAlpha_of_upperLetters? {c : Char} (h : upperLetters? c = none) :
    ∃ x ∈ upperForm c, x.isAlpha = false := by
  rw [upperForm, h]
  cases hsequence : upperSequences.lookup c.toNat with
  | some form =>
    obtain ⟨before, behind, htable, -⟩ := List.lookup_eq_some_iff.mp hsequence
    have hentry : (c.toNat, form) ∈ upperSequences := htable ▸ by simp
    have hall : ∀ entry ∈ upperSequences, ∃ n ∈ entry.2, (Char.ofNat n).isAlpha = false := by
      decide
    obtain ⟨n, hn, hforeign⟩ := hall _ hentry
    exact ⟨Char.ofNat n, List.mem_map_of_mem hn, hforeign⟩
  | none =>
    cases hrange : upperRanges.find? (·.holds c.toNat) with
    | some r =>
      -- no range is moved so far that its first character comes down to the ASCII letters
      have hall : ∀ r ∈ upperRanges, 122 < (r.first : Int) + r.shift := by decide +kernel
      have hmoved := hall r (List.mem_of_find?_eq_some hrange)
      have hholds := List.find?_some (p := fun r => UpperRange.holds r c.toNat) hrange
      have hfirst : r.first ≤ c.toNat := by
        simp only [UpperRange.holds, Bool.and_eq_true, decide_eq_true_eq] at hholds
        exact hholds.1.1
      exact ⟨_, List.mem_singleton_self _, isAlpha_ofNat (by omega)⟩
    | none =>
      refine ⟨c, List.mem_singleton_self c, ?_⟩
      rw [Bool.eq_false_iff]
      intro halpha
      rw [upperLetters?_of_isAlpha halpha] at h
      cases h

/-! ## Words -/

/-- A word is the upper-case form of the text, where that consists of ASCII letters. -/
theorem upperWord?_eq_some_iff {s letters : List Char} :
    upperWord? s = some letters ↔
      letters = s.flatMap upperForm ∧ ∀ x ∈ letters, x.isAlpha = true := by
  induction s generalizing letters with
  | nil =>
    constructor
    · intro h
      cases h
      exact ⟨rfl, fun x hx => absurd hx List.not_mem_nil⟩
    · rintro ⟨rfl, -⟩
      rfl
  | cons c rest ih =>
    rw [upperWord?, List.flatMap_cons]
    cases hform : upperLetters? c with
    | none =>
      obtain ⟨x, hx, hforeign⟩ := exists_not_isAlpha_of_upperLetters? hform
      constructor
      · intro h
        cases h
      · rintro ⟨rfl, hall⟩
        rw [hall x (List.mem_append_left _ hx)] at hforeign
        cases hforeign
    | some form =>
      have hupper := (isUpper_of_upperLetters? hform).2
      rw [upperForm_of_upperLetters? hform]
      simp only [Option.bind_eq_bind, Option.bind_some, Option.bind_eq_some_iff]
      constructor
      · rintro ⟨others, hothers, h⟩
        have h := Option.some.inj h
        subst h
        obtain ⟨rfl, hall⟩ := ih.mp hothers
        refine ⟨rfl, fun x hx => ?_⟩
        rcases List.mem_append.mp hx with hx | hx
        · exact Bool.or_eq_true_iff.mpr (.inl (hupper x hx))
        · exact hall x hx
      · rintro ⟨rfl, hall⟩
        exact ⟨_, ih.mpr ⟨rfl, fun x hx => hall x (List.mem_append_right _ hx)⟩, rfl⟩

/-- The upper-case form of a text consists of ASCII letters if that of each character does. -/
theorem isAlpha_flatMap_upperForm_iff {s : List Char} :
    (∀ x ∈ s.flatMap upperForm, x.isAlpha = true) ↔
      ∀ c ∈ s, c.isAlpha = true ∨ c ∈ ligatures := by
  constructor
  · intro hall c hc
    rw [← isSome_upperLetters?, ← Option.ne_none_iff_isSome]
    intro hnone
    obtain ⟨x, hx, hforeign⟩ := exists_not_isAlpha_of_upperLetters? hnone
    rw [hall x (List.mem_flatMap.mpr ⟨c, hc, hx⟩)] at hforeign
    cases hforeign
  · intro hall x hx
    obtain ⟨c, hc, hx⟩ := List.mem_flatMap.mp hx
    exact Bool.or_eq_true_iff.mpr (.inl ((upperForm_letters (hall c hc)).2 x hx))

theorem isUpper_flatMap_upperForm {s : List Char}
    (h : ∀ c ∈ s, c.isAlpha = true ∨ c ∈ ligatures) :
    ∀ x ∈ s.flatMap upperForm, x.isUpper = true := by
  intro x hx
  obtain ⟨c, hc, hx⟩ := List.mem_flatMap.mp hx
  exact (upperForm_letters (h c hc)).2 x hx

theorem flatMap_upperForm_of_isAlpha {s : List Char} (h : ∀ c ∈ s, c.isAlpha = true) :
    s.flatMap upperForm = s.map Char.toUpper := by
  induction s with
  | nil => rfl
  | cons c rest ih =>
    rw [List.flatMap_cons, upperForm_of_isAlpha (h c List.mem_cons_self),
      ih fun x hx => h x (List.mem_cons_of_mem c hx), List.map_cons, List.singleton_append]

/-- No character is lost in upper case, and every ligature is replaced by letters. -/
theorem length_filter_isAlpha_lt {s : List Char} (h : ∀ c ∈ s, c.isAlpha = true ∨ c ∈ ligatures)
    {c : Char} (hc : c ∈ s) (hligature : c ∈ ligatures) :
    (s.filter Char.isAlpha).length < (s.flatMap upperForm).length := by
  have hfewer : (s.filter Char.isAlpha).length < s.length := by
    refine List.length_filter_lt_length_iff_exists.mpr ⟨c, hc, ?_⟩
    rw [not_isAlpha_of_mem_ligatures hligature]
    exact Bool.false_ne_true
  have hkept : s.length ≤ (s.flatMap upperForm).length := by
    clear hfewer hc
    induction s with
    | nil => exact Nat.le_refl 0
    | cons d rest ih =>
      have hform := List.length_pos_iff.mpr (upperForm_letters (h d List.mem_cons_self)).1
      have hrest := ih fun x hx => h x (List.mem_cons_of_mem d hx)
      rw [List.length_cons, List.flatMap_cons, List.length_append]
      omega
  exact Nat.lt_of_lt_of_le hfewer hkept

end WorkbookTools.Text
