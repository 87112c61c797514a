import Mathlib
import WorkbookTools.Error
import WorkbookTools.Proofs.Address.Spelling

/-!
# Labels that are read strictly

A label should be taken for a column just if it is made of ASCII letters, and for the column that an
address with these letters has. The letters are looked at in the upper-case form of the label, so
that the ten characters whose forms consist of ASCII letters are let through, each as the letters
of its form. Addresses drop these characters instead.

* `columnOfLabel_eq_ok_iff`: what a label is taken for, in terms of its upper-case form.
* `IsTakenFor.spells_iff`: what a label is taken for it also spells, unless it holds a ligature.
* `IsTakenFor.labelValue_capitals_lt`: without its ligatures a label has fewer letters, and an
  earlier column.
* `IsTakenFor.agrees_iff`: when an address with a label has the column of the label.

Main statement: `readsStrictly_iff`.
-/

namespace WorkbookTools

/-! ## White space around a text -/

namespace Text

/-- Trimming takes nothing away from the characters of a kind that has no blanks. -/
theorem filter_trim {p q : Char → Bool} (h : ∀ c, p c = true → q c = false) (s : List Char) :
    (trim p s).filter q = s.filter q := by
  have hdrop : ∀ s : List Char, (s.dropWhile p).filter q = s.filter q := by
    intro s
    have hblank : (s.takeWhile p).filter q = [] := by
      refine List.filter_eq_nil_iff.mpr fun c hc => ?_
      rw [h c (List.mem_takeWhile_imp hc)]
      exact Bool.false_ne_true
    have hsplit := congrArg (List.filter q) (List.takeWhile_append_dropWhile (p := p) (l := s))
    rwa [List.filter_append, hblank, List.nil_append] at hsplit
  rw [trim, List.filter_reverse, hdrop, List.filter_reverse, hdrop, List.reverse_reverse]

/-- Blanks stand before the digits and letters of ASCII or behind them. -/
theorem toNat_of_isBlank {c : Char} (h : isBlank c = true) : c.toNat ≤ 32 ∨ 133 ≤ c.toNat := by
  simp only [isBlank, isSpace, Bool.or_eq_true, Bool.and_eq_true, decide_eq_true_eq,
    beq_iff_eq] at h
  omega

theorem not_isAlpha_of_isBlank {c : Char} (h : isBlank c = true) : c.isAlpha = false := by
  rw [Bool.eq_false_iff]
  intro halpha
  have hletter : 65 ≤ c.toNat ∧ c.toNat ≤ 122 :=
    forall_isAlpha (P := fun c => 65 ≤ c.toNat ∧ c.toNat ≤ 122) (by decide) (by decide) halpha
  have hblank := toNat_of_isBlank h
  omega

theorem not_isDigit_of_isBlank {c : Char} (h : isBlank c = true) : c.isDigit = false := by
  rw [Bool.eq_false_iff]
  intro hdigit
  have hdigit : 48 ≤ c.toNat ∧ c.toNat ≤ 57 := Char.isDigit_iff_toNat.mp hdigit
  have hblank := toNat_of_isBlank h
  omega

end Text

/-! ## What is read -/

/-- What is between the white space on either side of a label. -/
def labelText (label : String) : List Char := Text.trim Text.isBlank label.toList

/-- The upper-case form of what is between the white space. -/
def labelForm (label : String) : List Char := (labelText label).flatMap Text.upperForm

/-- A label of ASCII letters and ligatures is taken for the column that its upper-case form has, if
that is not above the limit. -/
structure IsTakenFor (label : String) (column : Nat) : Prop where
  ne_nil : labelText label ≠ []
  letters : ∀ c ∈ labelText label, c.isAlpha = true ∨ c ∈ Text.ligatures
  value : labelValue (labelForm label) = column
  le : column ≤ maxIndex

/-- In the strict sense a label spells a column if it is made of ASCII letters alone and has this
value, which is not above the limit. -/
structure SpellsColumn (label : String) (column : Nat) : Prop where
  ne_nil : labelText label ≠ []
  isAlpha : ∀ c ∈ labelText label, c.isAlpha = true
  value : labelValue ((labelText label).map Char.toUpper) = column
  le : column ≤ maxIndex

/-- A label is read strictly if it is taken for the column that it spells and refused as a value if
it spells none, and if an address with the label has the same column. -/
structure ReadsStrictly (label : String) : Prop where
  ok_iff : ∀ column, columnOfLabel label = .ok column ↔ SpellsColumn label column
  category : ∀ e, columnOfLabel label = .error e → (Error.columnLabel e).category = .value
  agrees : ∀ column, columnOfLabel label = .ok column →
    ∃ a, decodeAddress (label ++ "1") = some a ∧ a.row = 1 ∧ a.column = column

section Reading

variable {label : String} {column : Nat}

theorem isLabel_labelForm (hne : labelText label ≠ [])
    (hletters : ∀ c ∈ labelText label, c.isAlpha = true ∨ c ∈ Text.ligatures) :
    IsLabel (labelForm label) := by
  obtain ⟨c, hc⟩ := List.exists_mem_of_ne_nil _ hne
  obtain ⟨x, hx⟩ := List.exists_mem_of_ne_nil _ (Text.upperForm_letters (hletters c hc)).1
  exact ⟨List.ne_nil_of_mem (List.mem_flatMap.mpr ⟨c, hc, hx⟩),
    Text.isUpper_flatMap_upperForm hletters⟩

/-- A label is read from its upper-case form. -/
theorem columnOfLabel_of_letters (hne : labelText label ≠ [])
    (hletters : ∀ c ∈ labelText label, c.isAlpha = true ∨ c ∈ Text.ligatures) :
    columnOfLabel label =
      if maxIndex < labelValue (labelForm label) then .error (.outOfRange label)
      else .ok (labelValue (labelForm label)) := by
  have hform := isLabel_labelForm hne hletters
  have hword : Text.upperWord? (labelText label) = some (labelForm label) :=
    Text.upperWord?_eq_some_iff.mpr ⟨rfl, Text.isAlpha_flatMap_upperForm_iff.mpr hletters⟩
  rw [columnOfLabel, ← labelText, hword]
  split
  · next h => exact nomatch h
  · next h => exact absurd (Option.some.inj h) hform.ne_nil
  · next letters _ h =>
    obtain rfl := Option.some.inj h
    rw [columnOfLetters?_eq, columnValue_of_isUpper hform.isUpper]
    by_cases hlimit : maxIndex < labelValue (labelForm label)
    · rw [if_pos hlimit, if_pos hlimit]
    · rw [if_neg hlimit, if_neg hlimit]

theorem columnOfLabel_of_foreign
    (h : labelText label = [] ∨ ∃ c ∈ labelText label, c.isAlpha = false ∧ c ∉ Text.ligatures) :
    columnOfLabel label = .error (.malformed label) := by
  rw [columnOfLabel, ← labelText]
  rcases h with hnil | ⟨c, hc, hforeign, hligature⟩
  · rw [hnil]
    rfl
  · have hword : Text.upperWord? (labelText label) = none := by
      refine Option.eq_none_iff_forall_ne_some.mpr fun letters hletters => ?_
      obtain ⟨rfl, hall⟩ := Text.upperWord?_eq_some_iff.mp hletters
      rcases Text.isAlpha_flatMap_upperForm_iff.mp hall c hc with halpha | hmem
      · rw [hforeign] at halpha
        cases halpha
      · exact hligature hmem
    rw [hword]

theorem foreign_or_letters (label : String) :
    (labelText label = [] ∨ ∃ c ∈ labelText label, c.isAlpha = false ∧ c ∉ Text.ligatures) ∨
      labelText label ≠ [] ∧ ∀ c ∈ labelText label, c.isAlpha = true ∨ c ∈ Text.ligatures := by
  by_cases hnil : labelText label = []
  · exact .inl (.inl hnil)
  by_cases hforeign : ∃ c ∈ labelText label, c.isAlpha = false ∧ c ∉ Text.ligatures
  · exact .inl (.inr hforeign)
  · refine .inr ⟨hnil, fun c hc => ?_⟩
    by_contra hneither
    rw [not_or, Bool.not_eq_true] at hneither
    exact hforeign ⟨c, hc, hneither⟩

theorem columnOfLabel_eq_ok_iff : columnOfLabel label = .ok column ↔ IsTakenFor label column := by
  rcases foreign_or_letters label with hforeign | ⟨hne, hletters⟩
  · rw [columnOfLabel_of_foreign hforeign]
    refine iff_of_false nofun fun h => ?_
    rcases hforeign with hnil | ⟨c, hc, halpha, hligature⟩
    · exact h.ne_nil hnil
    · rcases h.letters c hc with hletter | hmem
      · rw [halpha] at hletter
        cases hletter
      · exact hligature hmem
  · rw [columnOfLabel_of_letters hne hletters]
    split
    · next hlimit =>
      refine iff_of_false nofun fun h => ?_
      have hle := h.le
      rw [← h.value] at hle
      omega
    · next hlimit =>
      constructor
      · intro h
        cases h
        exact ⟨hne, hletters, rfl, by omega⟩
      · rintro ⟨-, -, rfl, -⟩
        rfl

theorem columnOfLabel_eq_malformed_iff :
    columnOfLabel label = .error (.malformed label) ↔
      labelText label = [] ∨ ∃ c ∈ labelText label, c.isAlpha = false ∧ c ∉ Text.ligatures := by
  refine ⟨fun h => ?_, columnOfLabel_of_foreign⟩
  rcases foreign_or_letters label with hforeign | ⟨hne, hletters⟩
  · exact hforeign
  · rw [columnOfLabel_of_letters hne hletters] at h
    split at h <;> cases h

theorem columnOfLabel_eq_outOfRange_iff :
    columnOfLabel label = .error (.outOfRange label) ↔
      labelText label ≠ [] ∧ (∀ c ∈ labelText label, c.isAlpha = true ∨ c ∈ Text.ligatures) ∧
        maxIndex < labelValue (labelForm label) := by
  constructor
  · intro h
    rcases foreign_or_letters label with hforeign | ⟨hne, hletters⟩
    · rw [columnOfLabel_of_foreign hforeign] at h
      cases h
    · rw [columnOfLabel_of_letters hne hletters] at h
      split at h
      · next hlimit => exact ⟨hne, hletters, hlimit⟩
      · cases h
  · rintro ⟨hne, hletters, hlimit⟩
    rw [columnOfLabel_of_letters hne hletters, if_pos hlimit]

theorem SpellsColumn.isTakenFor (h : SpellsColumn label column) : IsTakenFor label column :=
  ⟨h.ne_nil, fun c hc => .inl (h.isAlpha c hc),
    by rw [labelForm, Text.flatMap_upperForm_of_isAlpha h.isAlpha, h.value], h.le⟩

/-- What a label is taken for it also spells, unless it holds a ligature. -/
theorem IsTakenFor.spells_iff (h : IsTakenFor label column) :
    SpellsColumn label column ↔ ∀ c ∈ labelText label, c ∉ Text.ligatures := by
  constructor
  · intro hspells c hc hligature
    have halpha := hspells.isAlpha c hc
    rw [Text.not_isAlpha_of_mem_ligatures hligature] at halpha
    cases halpha
  · intro hnone
    have hisAlpha : ∀ c ∈ labelText label, c.isAlpha = true :=
      fun c hc => (h.letters c hc).resolve_right (hnone c hc)
    refine ⟨h.ne_nil, hisAlpha, ?_, h.le⟩
    rw [← Text.flatMap_upperForm_of_isAlpha hisAlpha]
    exact h.value

end Reading

/-! ## The address with a label -/

section Addresses

variable {label : String} {column : Nat}

theorem columnValue_lt_of_length_lt {u v : List Char} (hu : ∀ c ∈ u, c.isAlpha = true)
    (hv : ∀ c ∈ v, c.isAlpha = true) (h : u.length < v.length) : columnValue u < columnValue v := by
  rw [← columnLabel_shortlex_iff, columnLabel_columnValue hu, columnLabel_columnValue hv]
  refine List.Shortlex.of_length_lt ?_
  rwa [List.length_map, List.length_map]

theorem not_isDigit_of_mem_ligatures {c : Char} (h : c ∈ Text.ligatures) : c.isDigit = false := by
  have hall : Text.ligatures.all (fun c => !c.isDigit) = true := by decide
  have hforeign := List.all_eq_true.mp hall c h
  rwa [Bool.not_eq_true'] at hforeign

/-- The letters of an address with a label are the ASCII letters of the label. -/
theorem capitalsOf_append_one (label : String) :
    capitalsOf (label ++ "1") = ((labelText label).filter Char.isAlpha).map Char.toUpper := by
  rw [capitalsOf, labelText, Text.filter_trim fun c => Text.not_isAlpha_of_isBlank,
    String.toList_append, List.filter_append]
  exact congrArg (List.map Char.toUpper) (List.append_nil _)

theorem IsTakenFor.digitsOf_append_one (h : IsTakenFor label column) :
    digitsOf (label ++ "1") = ['1'] := by
  have hnone : (labelText label).filter Char.isDigit = [] := by
    refine List.filter_eq_nil_iff.mpr fun c hc => ?_
    rw [Bool.not_eq_true]
    rcases h.letters c hc with halpha | hligature
    · exact not_isDigit_of_isAlpha halpha
    · exact not_isDigit_of_mem_ligatures hligature
  rw [labelText, Text.filter_trim fun c => Text.not_isDigit_of_isBlank] at hnone
  rw [digitsOf, String.toList_append, List.filter_append, hnone]
  rfl

/-- An address drops the ligatures of a label, and the letters that are left have an earlier
column. -/
theorem IsTakenFor.labelValue_capitals_lt (h : IsTakenFor label column) {c : Char}
    (hc : c ∈ labelText label) (hligature : c ∈ Text.ligatures) :
    labelValue (capitalsOf (label ++ "1")) < column := by
  have hshorter := Text.length_filter_isAlpha_lt h.letters hc hligature
  have hform := isLabel_labelForm h.ne_nil h.letters
  have hearlier : columnValue ((labelText label).filter Char.isAlpha) <
      columnValue (labelForm label) :=
    columnValue_lt_of_length_lt (fun x hx => (List.mem_filter.mp hx).2)
      (fun x hx => isAlpha_of_isUpper (hform.isUpper x hx)) hshorter
  rwa [columnValue_of_isUpper hform.isUpper, h.value,
    columnValue_eq_labelValue fun x hx => (List.mem_filter.mp hx).2,
    ← capitalsOf_append_one] at hearlier

/-- An address with a label has the column for which the label is taken, unless the label holds a
ligature. -/
theorem IsTakenFor.agrees_iff (h : IsTakenFor label column) :
    (∃ a, decodeAddress (label ++ "1") = some a ∧ a.row = 1 ∧ a.column = column) ↔
      ∀ c ∈ labelText label, c ∉ Text.ligatures := by
  constructor
  · rintro ⟨a, ha, -, hcolumn⟩ c hc hligature
    have hvalue := (decodeAddress_eq_some_iff.mp ha).2.2
    have hearlier := h.labelValue_capitals_lt hc hligature
    omega
  · intro hnone
    have hspells := h.spells_iff.mpr hnone
    have hcapitals : capitalsOf (label ++ "1") = (labelText label).map Char.toUpper := by
      rw [capitalsOf_append_one, List.filter_eq_self.mpr hspells.isAlpha]
    have hvalue : labelValue (capitalsOf (label ++ "1")) = column := by
      rw [hcapitals, hspells.value]
    have hdigits := h.digitsOf_append_one
    have haddress : SpellsAddress (label ++ "1") :=
      { capitals_ne_nil := hcapitals ▸ mt List.map_eq_nil_iff.mp h.ne_nil
        digits_ne_nil := hdigits ▸ List.cons_ne_nil _ _
        not_all_zero := ⟨'1', hdigits ▸ List.mem_singleton_self _, by decide⟩
        column_le := hvalue ▸ h.le
        row_le := hdigits ▸ by decide }
    obtain ⟨a, ha⟩ := haddress.exists_address
    obtain ⟨-, hrow, hcolumn⟩ := decodeAddress_eq_some_iff.mp ha
    refine ⟨a, ha, ?_, hcolumn.symm.trans hvalue⟩
    rw [← hrow, hdigits]
    rfl

end Addresses

/-! ## The result -/

/-- A label is taken for a column if it consists of ASCII letters and ligatures and its upper-case
form has this column; it is malformed if another character is in it or nothing at all, and out of
range if the column of the form is above the limit. So it is read strictly, in agreement with
addresses, unless it is taken for a column and holds a ligature. -/
theorem readsStrictly_iff (label : String) :
    (∀ column, columnOfLabel label = .ok column ↔ IsTakenFor label column) ∧
      (columnOfLabel label = .error (.malformed label) ↔
        labelText label = [] ∨ ∃ c ∈ labelText label, c.isAlpha = false ∧ c ∉ Text.ligatures) ∧
      (columnOfLabel label = .error (.outOfRange label) ↔
        labelText label ≠ [] ∧ (∀ c ∈ labelText label, c.isAlpha = true ∨ c ∈ Text.ligatures) ∧
          maxIndex < labelValue (labelForm label)) ∧
      (ReadsStrictly label ↔
        ¬ ((∃ column, IsTakenFor label column) ∧ ∃ c ∈ labelText label, c ∈ Text.ligatures)) := by
  refine ⟨fun column => columnOfLabel_eq_ok_iff, columnOfLabel_eq_malformed_iff,
    columnOfLabel_eq_outOfRange_iff, ?_⟩
  constructor
  · rintro hstrict ⟨⟨column, htaken⟩, c, hc, hligature⟩
    have hspells := (hstrict.ok_iff column).mp (columnOfLabel_eq_ok_iff.mpr htaken)
    exact htaken.spells_iff.mp hspells c hc hligature
  · intro hnone
    have hplain : ∀ column, IsTakenFor label column → ∀ c ∈ labelText label, c ∉ Text.ligatures :=
      fun column htaken c hc hligature => hnone ⟨⟨column, htaken⟩, c, hc, hligature⟩
    refine ⟨fun column => ?_, fun e _ => rfl, fun column hok => ?_⟩
    · rw [columnOfLabel_eq_ok_iff]
      exact ⟨fun htaken => htaken.spells_iff.mpr (hplain column htaken), SpellsColumn.isTakenFor⟩
    · have htaken := columnOfLabel_eq_ok_iff.mp hok
      exact htaken.agrees_iff.mpr (hplain column htaken)

/-- The sharp s is taken for two letters, although no address can be written with it. -/
theorem sharp_s_is_not_read_strictly :
    columnOfLabel "ß" = .ok 513 ∧ decodeAddress "ß1" = none ∧ ¬ ReadsStrictly "ß" := by
  have hread : columnOfLabel "ß" = .ok 513 := by decide
  have haddress : decodeAddress ("ß" ++ "1") = none := by decide
  refine ⟨hread, haddress, fun hstrict => ?_⟩
  obtain ⟨a, ha, -⟩ := hstrict.agrees 513 hread
  rw [haddress] at ha
  cases ha

end WorkbookTools
