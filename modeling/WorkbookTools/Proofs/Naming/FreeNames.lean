import Mathlib.Order.Bounds.Basic
import WorkbookTools.Error
import WorkbookTools.Proofs.Naming

/-!
# The least free name

Where a set of paths exists and no question about it fails, the name of a new workbook is the one that
was asked for, or that of the least number from 1 to 9999 whose sibling does not exist. It is in the
same directory. It has the same suffix, too, unless the name ends with a dot: such a name has no
suffix, but the number after the dot is one.

* `suffix_numbered_eq_iff`: when a numbered name keeps the suffix.
* `nextAvailable_ok_iff`, `nextAvailable_error_iff`: the answers of the search.
* `nextAvailable_isLeast`: the least free name, and the destinations that come from it.
-/

namespace WorkbookTools

namespace Path

variable {p : Path} {n : Nat}

/-! ## Suffixes of numbered names -/

theorem stem_ne_empty {name : String} (h : (splitName name).2 ≠ "") : (splitName name).1 ≠ "" := by
  unfold splitName at h ⊢
  simp only at h ⊢
  split at h
  · next stem hdrop =>
    split at h
    · exact absurd rfl h
    · next hparts =>
      obtain ⟨hstem, -⟩ := not_or.mp hparts
      rw [if_neg hparts]
      simpa using hstem
  · exact absurd rfl h

/-- The suffix is the last dot with what follows it, if there is something on either side of it. -/
theorem suffix_ne_empty_iff :
    p.suffix ≠ "" ↔ ∃ (stem : String) (extension : List Char),
      p.name.toList = stem.toList ++ '.' :: extension ∧ stem ≠ "" ∧ extension ≠ [] ∧
        '.' ∉ extension := by
  constructor
  · intro h
    obtain ⟨hname, hnone | ⟨extension, hsuffix, hsome, hdots⟩⟩ := splitName_spec p.name
    · exact absurd hnone h
    · refine ⟨_, extension, ?_, stem_ne_empty h, hsome, fun hdot => hdots _ hdot rfl⟩
      conv_lhs => rw [← hname, hsuffix, String.toList_append, String.toList_ofList]
  · rintro ⟨stem, extension, hname, hstem, hsome, hdots⟩
    have hsame : p.name = stem ++ String.ofList ('.' :: extension) := by
      refine String.toList_injective ?_
      rw [hname, String.toList_append, String.toList_ofList]
    have hsplit := splitName_append hstem hsome fun c hc hdot => hdots (hdot ▸ hc)
    rw [suffix, hsame, hsplit]
    intro hempty
    have hlist := congrArg String.toList hempty
    rw [String.toList_ofList] at hlist
    cases hlist

/-- The name ends with a dot that is not all of it. -/
def EndsWithDot (p : Path) : Prop := ∃ stem : String, stem ≠ "" ∧ p.name = stem ++ "."

theorem EndsWithDot.suffix_eq (h : p.EndsWithDot) : p.suffix = "" := by
  obtain ⟨start, -, hstart⟩ := h
  by_contra hsuffix
  obtain ⟨stem, extension, hname, -, hsome, hdots⟩ := suffix_ne_empty_iff.mp hsuffix
  obtain ⟨before, last, rfl⟩ := (List.eq_nil_or_concat extension).resolve_left hsome
  have hdot : ".".toList = ['.'] := rfl
  rw [List.concat_eq_append] at hname hdots
  rw [hstart, String.toList_append, hdot, ← List.cons_append, ← List.append_assoc] at hname
  obtain rfl := List.singleton_inj.mp (List.append_inj_right' hname rfl)
  exact hdots (List.mem_append_right _ (List.mem_singleton_self _))

/-- What is put between stem and suffix. -/
theorem name_numbered (hsuffix : p.suffix = "") (n : Nat) :
    (p.numbered n).name.toList = p.name.toList ++ '_' :: Nat.toDigits 10 n := by
  have hname : p.stem ++ p.suffix = p.name := (splitName_spec p.name).1
  have hstem : p.stem = p.name := by rw [← hname, hsuffix, String.append_empty]
  have hdigits : (toString n).toList = Nat.toDigits 10 n := Nat.toList_repr
  have hunderscore : "_".toList = ['_'] := rfl
  rw [numbered, name_withName, hsuffix, hstem, String.append_empty, String.toList_append,
    String.toList_append, hdigits, hunderscore, List.append_assoc]
  rfl

theorem dot_notMem_number (n : Nat) : '.' ∉ '_' :: Nat.toDigits 10 n := by
  intro h
  rcases List.mem_cons.mp h with hunderscore | hdigit
  · cases hunderscore
  · have hdecimal := Nat.isDigit_of_mem_toDigits (by decide) (by decide) hdigit
    revert hdecimal
    decide

/-- Without a dot at its end, a name that has no suffix has none after it is numbered, either. -/
theorem suffix_numbered_eq_empty (hsuffix : p.suffix = "") (hend : ¬ p.EndsWithDot) (n : Nat) :
    (p.numbered n).suffix = "" := by
  by_contra hnumbered
  obtain ⟨stem, extension, hname, hstem, hsome, hdots⟩ := suffix_ne_empty_iff.mp hnumbered
  rw [name_numbered hsuffix] at hname
  -- The last dot is one of the old name, because none has been added.
  rcases List.append_eq_append_iff.mp hname with ⟨between, -, hnumber⟩ | ⟨rest, hold, hrest⟩
  · refine dot_notMem_number n ?_
    rw [hnumber]
    exact List.mem_append_right _ List.mem_cons_self
  · cases rest with
    | nil =>
      refine dot_notMem_number n ?_
      rw [List.nil_append] at hrest
      rw [← hrest]
      exact List.mem_cons_self
    | cons dot before =>
      obtain ⟨rfl, rfl⟩ := List.cons.inj hrest
      by_cases hbefore : before = []
      · refine hend ⟨stem, hstem, String.toList_injective ?_⟩
        rw [hold, hbefore, String.toList_append]
        rfl
      · have hdotless : '.' ∉ before := fun hdot => hdots (List.mem_append_left _ hdot)
        exact suffix_ne_empty_iff.mpr ⟨stem, before, hold, hstem, hbefore, hdotless⟩ hsuffix

/-- A numbered name keeps the suffix just if the name does not end with a dot. -/
theorem suffix_numbered_eq_iff : (p.numbered n).suffix = p.suffix ↔ ¬ p.EndsWithDot := by
  constructor
  · rintro hsame hend
    have hsuffix := hend.suffix_eq
    obtain ⟨stem, hstem, hname⟩ := hend
    rw [hsuffix] at hsame
    refine suffix_ne_empty_iff.mpr
      ⟨stem, _, ?_, hstem, List.cons_ne_nil _ _, dot_notMem_number n⟩ hsame
    rw [name_numbered hsuffix, hname, String.toList_append, List.append_assoc]
    rfl
  · intro hend
    by_cases hsuffix : p.suffix = ""
    · rw [hsuffix, suffix_numbered_eq_empty hsuffix hend]
    · exact suffix_numbered hsuffix n

theorem parent_numbered (p : Path) (n : Nat) : (p.numbered n).parent = p.parent := by
  simp [numbered, withName, parent]

end Path

/-! ## The search -/

section

variable {ε : Type} {fail : NamingError → ε} {taken : Path → Bool} {p q : Path}

/-- The answers where the given paths exist. -/
def presentIn (taken : Path → Bool) : Path → Except ε Bool := fun q => .ok (taken q)

/-- The numbers that may be tried and whose sibling does not exist. -/
def freeNumbers (taken : Path → Bool) (p : Path) : Set Nat :=
  {n | 1 ≤ n ∧ n ≤ 9999 ∧ taken (p.numbered n) = false}

theorem firstFree_presentIn (numbers : List Nat) :
    (firstFree (presentIn taken) p numbers : Except ε (Option Path)) =
      .ok ((numbers.find? fun n => !taken (p.numbered n)).map p.numbered) := by
  induction numbers with
  | nil => rfl
  | cons n rest ih =>
    unfold firstFree presentIn
    cases htaken : taken (p.numbered n) with
    | true =>
      rw [List.find?_cons_of_neg (by simp [htaken])]
      exact ih
    | false =>
      rw [List.find?_cons_of_pos (by simp [htaken])]
      rfl

theorem find_free_eq_some_iff {n : Nat} :
    ((List.range' 1 maxNumber).find? fun n => !taken (p.numbered n)) = some n ↔
      IsLeast (freeNumbers taken p) n := by
  rw [List.find?_range'_eq_some, List.mem_range'_1, Bool.not_eq_true']
  constructor
  · rintro ⟨hfree, hrange, hbefore⟩
    refine ⟨⟨hrange.1, Nat.le_of_lt_succ hrange.2, hfree⟩, fun other hother => ?_⟩
    by_contra hless
    have htaken := hbefore other hother.1 (Nat.lt_of_not_le hless)
    rw [hother.2.2] at htaken
    cases htaken
  · rintro ⟨⟨hlow, hhigh, hfree⟩, hleast⟩
    refine ⟨hfree, ⟨hlow, Nat.lt_succ_of_le hhigh⟩, fun other hother hless => ?_⟩
    cases htaken : taken (p.numbered other) with
    | true => rfl
    | false =>
      have hle : n ≤ other := hleast ⟨hother, hless.le.trans hhigh, htaken⟩
      exact absurd hless (Nat.not_lt.mpr hle)

theorem find_free_eq_none_iff :
    ((List.range' 1 maxNumber).find? fun n => !taken (p.numbered n)) = none ↔
      ∀ n, 1 ≤ n → n ≤ 9999 → taken (p.numbered n) = true := by
  rw [List.find?_range'_eq_none]
  constructor
  · intro h n hlow hhigh
    simpa using h n hlow (Nat.lt_succ_of_le hhigh)
  · intro h n hlow hhigh
    simpa using h n hlow (Nat.le_of_lt_succ hhigh)

/-- The search, once the path is known to exist. -/
theorem nextAvailable_of_taken (hname : p.parts ≠ []) (htaken : taken p = true) :
    nextAvailable (presentIn taken) fail p =
      match (List.range' 1 maxNumber).find? fun n => !taken (p.numbered n) with
      | some n => .ok (p.numbered n)
      | none => .error (fail (.exhausted p)) := by
  unfold nextAvailable
  rw [firstFree_presentIn, presentIn, htaken]
  simp only [bind, Except.bind, if_true, if_neg hname]
  cases (List.range' 1 maxNumber).find? fun n => !taken (p.numbered n) <;> rfl

theorem nextAvailable_of_free (hfree : taken p = false) :
    nextAvailable (presentIn taken) fail p = .ok p := by
  unfold nextAvailable
  rw [presentIn, hfree]
  rfl

theorem nextAvailable_ok_iff (hname : p.parts ≠ []) :
    nextAvailable (presentIn taken) fail p = .ok q ↔
      taken p = false ∧ q = p ∨
        taken p = true ∧ ∃ n, IsLeast (freeNumbers taken p) n ∧ q = p.numbered n := by
  cases htaken : taken p with
  | false =>
    rw [nextAvailable_of_free htaken]
    simp [eq_comm]
  | true =>
    rw [nextAvailable_of_taken hname htaken]
    simp only [Bool.true_eq_false, false_and, true_and, false_or, ← find_free_eq_some_iff]
    cases (List.range' 1 maxNumber).find? fun n => !taken (p.numbered n) with
    | none => simp
    | some n => simp [eq_comm]

theorem nextAvailable_error_iff (hname : p.parts ≠ []) {e : ε} :
    nextAvailable (presentIn taken) fail p = .error e ↔
      taken p = true ∧ (∀ n, 1 ≤ n → n ≤ 9999 → taken (p.numbered n) = true) ∧
        e = fail (.exhausted p) := by
  cases htaken : taken p with
  | false =>
    rw [nextAvailable_of_free htaken]
    simp
  | true =>
    rw [nextAvailable_of_taken hname htaken, ← find_free_eq_none_iff]
    cases (List.range' 1 maxNumber).find? fun n => !taken (p.numbered n) with
    | none => simp [eq_comm]
    | some n => simp

/-! ## Destinations -/

theorem destination_of_free (onConflict : ConflictPolicy) (hfree : taken p = false) :
    destination (presentIn taken) fail onConflict p = .ok ⟨p, none, false⟩ := by
  unfold destination
  rw [presentIn, hfree]
  rfl

/-- Where a new workbook goes if the path exists. -/
theorem destination_of_taken (onConflict : ConflictPolicy) (htaken : taken p = true) :
    destination (presentIn taken) fail onConflict p =
      match onConflict with
      | .skip => .ok ⟨p, some ("Workbook exists; keeping existing file: " ++ p.name), true⟩
      | .overwrite => .ok ⟨p, some ("Workbook exists; overwriting: " ++ p.name), false⟩
      | .rename => (nextAvailable (presentIn taken) fail p).map fun renamed =>
          ⟨renamed, some ("Workbook exists; created as: " ++ renamed.name), false⟩ := by
  unfold destination
  rw [presentIn, htaken]
  cases onConflict with
  | skip => rfl
  | overwrite => rfl
  | rename =>
    simp only [bind, Except.bind, pure, Except.pure, if_true]
    unfold presentIn
    cases nextAvailable (fun q => Except.ok (taken q)) fail p <;> rfl

/-- Only a search without result leaves a workbook without a destination. -/
theorem destination_error_iff {onConflict : ConflictPolicy} {e : ε} :
    destination (presentIn taken) fail onConflict p = .error e ↔
      onConflict = .rename ∧ nextAvailable (presentIn taken) fail p = .error e := by
  cases htaken : taken p with
  | false =>
    rw [destination_of_free onConflict htaken, nextAvailable_of_free htaken]
    simp
  | true =>
    rw [destination_of_taken onConflict htaken]
    cases onConflict with
    | skip => simp
    | overwrite => simp
    | rename => cases nextAvailable (presentIn taken) fail p <;> simp [Except.map]

/-- The destination exists if the path exists and is not to be renamed, it is kept just by the policy
to skip, and there is a warning if the path exists. -/
theorem destination_ok (hname : p.parts ≠ []) {onConflict : ConflictPolicy} {target : Destination}
    (h : destination (presentIn taken) fail onConflict p = .ok target) :
    (target.skipped = true ↔ taken p = true ∧ onConflict = .skip) ∧
      (taken target.path = true ↔ taken p = true ∧ onConflict ≠ .rename) ∧
      (target.warning ≠ none ↔ taken p = true) ∧
      if onConflict = .rename then nextAvailable (presentIn taken) fail p = .ok target.path
        else target.path = p := by
  cases htaken : taken p with
  | false =>
    rw [destination_of_free onConflict htaken] at h
    cases h
    simp [htaken, nextAvailable_of_free htaken]
  | true =>
    rw [destination_of_taken onConflict htaken] at h
    cases onConflict with
    | skip =>
      cases h
      simp [htaken]
    | overwrite =>
      cases h
      simp [htaken]
    | rename =>
      obtain ⟨renamed, hrenamed, rfl⟩ := Action.map_eq_ok.mp h
      have hfree : taken renamed = false := by
        rcases (nextAvailable_ok_iff hname).mp hrenamed with ⟨hnot, -⟩ | ⟨-, n, hn, rfl⟩
        · rw [htaken] at hnot
          cases hnot
        · exact hn.1.2.2
      simp [hfree, hrenamed]

end

/-! ## The result -/

/-- A path that does not exist is taken itself, and otherwise the sibling of the least number from 1 to
9999 that does not exist; if the path and all these siblings exist, the search fails. So what is found
does not exist. It is in the same directory and has the same suffix, unless it is the sibling of a name
that ends with a dot. Only a path that exists and is to be kept is skipped, the destination exists just
if the path does and is not to be renamed, and there is a warning just if the path exists. Only the
search for another name can fail. -/
theorem nextAvailable_isLeast (taken : Path → Bool) (p : Path) (hname : p.parts ≠ []) :
    let search : Except Error Path := nextAvailable (presentIn taken) .naming p
    let sibling := fun n : Nat => p.withName (p.stem ++ "_" ++ toString n ++ p.suffix)
    (∀ q, search = .ok q ↔
      taken p = false ∧ q = p ∨
        taken p = true ∧
          ∃ n, IsLeast {n | 1 ≤ n ∧ n ≤ 9999 ∧ taken (sibling n) = false} n ∧ q = sibling n) ∧
    (∀ e, search = .error e ↔
      taken p = true ∧ (∀ n, 1 ≤ n → n ≤ 9999 → taken (sibling n) = true) ∧
        e = .naming (.exhausted p)) ∧
    (∀ e, search = .error e → e.category = .runtime) ∧
    (∀ q, search = .ok q → taken q = false ∧ q.parent = p.parent ∧
      (q.suffix = p.suffix ↔ q = p ∨ ¬ p.EndsWithDot)) ∧
    ∀ onConflict,
      let chosen : Except Error Destination := destination (presentIn taken) .naming onConflict p
      (∀ target, chosen = .ok target →
        (target.skipped = true ↔ taken p = true ∧ onConflict = .skip) ∧
          (taken target.path = true ↔ taken p = true ∧ onConflict ≠ .rename) ∧
          (target.warning ≠ none ↔ taken p = true) ∧
          if onConflict = .rename then search = .ok target.path else target.path = p) ∧
      ∀ e, chosen = .error e ↔ onConflict = .rename ∧ search = .error e := by
  intro search sibling
  refine ⟨fun q => nextAvailable_ok_iff hname, fun e => nextAvailable_error_iff hname,
    fun e he => ?_, fun q hq => ?_, fun onConflict =>
      ⟨fun target htarget => destination_ok hname htarget, fun e => destination_error_iff⟩⟩
  · obtain ⟨-, -, rfl⟩ := (nextAvailable_error_iff hname).mp he
    rfl
  · rcases (nextAvailable_ok_iff hname).mp hq with ⟨hfree, rfl⟩ | ⟨-, n, hn, rfl⟩
    · exact ⟨hfree, rfl, fun _ => .inl rfl, fun _ => rfl⟩
    · refine ⟨hn.1.2.2, Path.parent_numbered p n, fun hsame => ?_, ?_⟩
      · exact .inr (Path.suffix_numbered_eq_iff.mp hsame)
      · rintro (hself | hend)
        · rw [hself]
        · exact Path.suffix_numbered_eq_iff.mpr hend

/-- A gap in the numbers is filled, whatever other names look like numbered ones. -/
theorem first_gap_is_taken :
    let p := Path.ofText "/data/a.b.xlsx"
    let names := ["a.b.xlsx", "a.b_1.xlsx", "a.b_1_1.xlsx", "a.b_3.xlsx"]
    let taken := fun q : Path => decide (q.parent = p.parent ∧ q.name ∈ names)
    let search : Except Error Path := nextAvailable (presentIn taken) .naming p
    p.parts ≠ [] ∧ search = .ok (Path.ofText "/data/a.b_2.xlsx") := by
  intro p names taken search
  have hname : p.parts ≠ [] := by decide +kernel
  obtain ⟨hsearch, -⟩ := nextAvailable_isLeast taken p hname
  have hone : taken (p.withName (p.stem ++ "_" ++ toString 1 ++ p.suffix)) = true := by
    decide +kernel
  have htwo : taken (p.withName (p.stem ++ "_" ++ toString 2 ++ p.suffix)) = false := by
    decide +kernel
  refine ⟨hname, (hsearch _).mpr (.inr ⟨by decide +kernel, 2, ⟨⟨by omega, by omega, htwo⟩, ?_⟩, ?_⟩)⟩
  · rintro n ⟨hlow, -, hfree⟩
    by_contra hless
    obtain rfl : n = 1 := by omega
    rw [hone] at hfree
    cases hfree
  · decide +kernel

/-- A name that ends with a dot has no suffix, but its sibling has one. -/
theorem number_after_dot_is_suffix :
    let p := Path.ofText "/data/book."
    let q := Path.ofText "/data/book._1"
    let search : Except Error Path :=
      nextAvailable (presentIn fun other => decide (other = p)) .naming p
    search = .ok q ∧ p.suffix = "" ∧ q.suffix = "._1" ∧ q.suffix ≠ p.suffix := by
  decide +kernel

end WorkbookTools
