import Mathlib
import WorkbookTools.Proofs.Address
import WorkbookTools.Proofs.Text.UpperCase

/-!
# Labels in the order of their columns

A label is the number of its column in bijective base 26, whose digits are the letters. Its last
letter tells the remainder and the letters before it are the label of the quotient, so that what
holds of labels is shown by adding one letter at the end.

* `columnValue_eq_labelValue`: the value that reading accumulates, in terms of the places of the
  letters in the alphabet.
* `columnLabel_columnValue`: every run of letters is, in capitals, the label of its value.
* `shortlex_concat`: what one more letter on either side changes in the order of words.
* `columnLabel_shortlex_iff`: labels are in the order of their columns.

Main statement: `columnLabel_orderIsomorphism`.
-/

namespace WorkbookTools

/-! ## Values of words -/

/-- The letters from A to Z, each of which stands for its place. -/
def alphabet : List Char := "ABCDEFGHIJKLMNOPQRSTUVWXYZ".toList

/-- The number of a word in bijective base 26. Every letter counts as its place in the alphabet, the
first place being one, and has 26 times the weight of the letter behind it. -/
def labelValue (letters : List Char) : Nat :=
  Nat.ofDigits 26 (letters.reverse.map fun c => alphabet.idxOf c + 1)

/-- One or more of the letters from A to Z. -/
structure IsLabel (letters : List Char) : Prop where
  ne_nil : letters ≠ []
  isUpper : ∀ c ∈ letters, c.isUpper = true

theorem labelValue_concat (letters : List Char) (c : Char) :
    labelValue (letters ++ [c]) = labelValue letters * 26 + (alphabet.idxOf c + 1) := by
  rw [labelValue, List.reverse_append, List.reverse_singleton, List.singleton_append,
    List.map_cons, Nat.ofDigits_cons, labelValue]
  omega

theorem columnDigit_eq_place {c : Char} (h : c.isAlpha = true) :
    columnDigit c = alphabet.idxOf c.toUpper + 1 :=
  Text.forall_isAlpha (P := fun c => columnDigit c = alphabet.idxOf c.toUpper + 1) (by decide)
    (by decide) h

/-- Reading accumulates the value of the word in capitals. -/
theorem columnValue_eq_labelValue {letters : List Char} (h : ∀ c ∈ letters, c.isAlpha = true) :
    columnValue letters = labelValue (letters.map Char.toUpper) := by
  induction letters using List.reverseRecOn with
  | nil => rfl
  | append_singleton rest c ih =>
    have hrest : ∀ x ∈ rest, x.isAlpha = true := fun x hx => h x (List.mem_append_left _ hx)
    have hlast : c.isAlpha = true := h c (List.mem_append_right _ (List.mem_singleton_self c))
    rw [columnValue_concat, List.map_append, List.map_singleton, labelValue_concat, ih hrest,
      columnDigit_eq_place hlast]

theorem toUpper_of_isUpper {c : Char} (h : c.isUpper = true) : c.toUpper = c :=
  Char.toUpper_eq_of_not_isLower (Char.not_isLower_of_isUpper h)

theorem map_toUpper_of_isUpper {letters : List Char} (h : ∀ c ∈ letters, c.isUpper = true) :
    letters.map Char.toUpper = letters :=
  List.map_congr_left (fun c hc => toUpper_of_isUpper (h c hc)) |>.trans (List.map_id letters)

theorem columnValue_of_isUpper {letters : List Char} (h : ∀ c ∈ letters, c.isUpper = true) :
    columnValue letters = labelValue letters := by
  rw [columnValue_eq_labelValue fun c hc => isAlpha_of_isUpper (h c hc), map_toUpper_of_isUpper h]

/-! ## Every word is a label -/

theorem columnLabel_zero : columnLabel 0 = [] := by
  rw [columnLabel, if_pos rfl]

theorem columnLabel_of_ne_zero {column : Nat} (h : column ≠ 0) :
    columnLabel column = columnLabel ((column - 1) / 26) ++ [columnLetter ((column - 1) % 26)] := by
  rw [columnLabel, if_neg h]

/-- A column is the value of its label. -/
theorem labelValue_columnLabel (column : Nat) : labelValue (columnLabel column) = column := by
  rw [← columnValue_of_isUpper fun _ hc => isUpper_of_mem_columnLabel hc, columnValue_columnLabel]

theorem columnDigit_pos {c : Char} (h : c.isAlpha = true) : 1 ≤ columnDigit c := by
  rw [columnDigit_eq_place h]
  omega

theorem columnDigit_le {c : Char} (h : c.isAlpha = true) : columnDigit c ≤ 26 :=
  Text.forall_isAlpha (P := fun c => columnDigit c ≤ 26) (by decide) (by decide) h

theorem columnLetter_columnDigit {c : Char} (h : c.isAlpha = true) :
    columnLetter (columnDigit c - 1) = c.toUpper :=
  Text.forall_isAlpha (P := fun c => columnLetter (columnDigit c - 1) = c.toUpper) (by decide)
    (by decide) h

theorem columnLabel_append_letter (column : Nat) {c : Char} (h : c.isAlpha = true) :
    columnLabel (column * 26 + columnDigit c) = columnLabel column ++ [c.toUpper] := by
  have hpos := columnDigit_pos h
  have hle := columnDigit_le h
  have hquotient : (column * 26 + columnDigit c - 1) / 26 = column := by omega
  have hremainder : (column * 26 + columnDigit c - 1) % 26 = columnDigit c - 1 := by omega
  rw [columnLabel_of_ne_zero (by omega), hquotient, hremainder, columnLetter_columnDigit h]

/-- Every run of letters, in capitals, is the label of its value. -/
theorem columnLabel_columnValue {letters : List Char} (h : ∀ c ∈ letters, c.isAlpha = true) :
    columnLabel (columnValue letters) = letters.map Char.toUpper := by
  induction letters using List.reverseRecOn with
  | nil => exact columnLabel_zero
  | append_singleton rest c ih =>
    have hrest : ∀ x ∈ rest, x.isAlpha = true := fun x hx => h x (List.mem_append_left _ hx)
    have hlast : c.isAlpha = true := h c (List.mem_append_right _ (List.mem_singleton_self c))
    rw [columnValue_concat, columnLabel_append_letter _ hlast, ih hrest, List.map_append,
      List.map_singleton]

theorem isLabel_columnLabel {column : Nat} (h : 1 ≤ column) : IsLabel (columnLabel column) :=
  ⟨columnLabel_ne_nil h, fun _ hc => isUpper_of_mem_columnLabel hc⟩

namespace IsLabel

variable {letters : List Char}

theorem columnLabel_labelValue (h : IsLabel letters) :
    columnLabel (labelValue letters) = letters := by
  rw [← columnValue_of_isUpper h.isUpper,
    columnLabel_columnValue fun c hc => isAlpha_of_isUpper (h.isUpper c hc),
    map_toUpper_of_isUpper h.isUpper]

theorem one_le_labelValue (h : IsLabel letters) : 1 ≤ labelValue letters := by
  rw [Nat.one_le_iff_ne_zero]
  intro hzero
  have hlabel := h.columnLabel_labelValue
  rw [hzero, columnLabel_zero] at hlabel
  exact h.ne_nil hlabel.symm

end IsLabel

/-! ## The order -/

theorem toNat_columnLetter (d : Nat) : (columnLetter d).toNat = 65 + d % 26 := by
  have hall : ∀ d : Fin 26, (Char.ofNat (65 + d)).toNat = 65 + d := by decide
  exact hall ⟨d % 26, Nat.mod_lt d (by decide)⟩

theorem columnLetter_lt_iff {d e : Nat} (hd : d < 26) (he : e < 26) :
    columnLetter d < columnLetter e ↔ d < e := by
  rw [Char.lt_def, UInt32.lt_iff_toNat_lt, Char.toNat_val, Char.toNat_val, toNat_columnLetter,
    toNat_columnLetter]
  omega

/-- One more letter at the end of words of the same length matters only if they were equal. -/
theorem lex_concat {a b : List Char} (h : a.length = b.length) {x y : Char} :
    List.Lex (· < ·) (a ++ [x]) (b ++ [y]) ↔ List.Lex (· < ·) a b ∨ a = b ∧ x < y := by
  induction a generalizing b with
  | nil =>
    cases b with
    | nil => simp
    | cons d rest => cases h
  | cons c rest ih =>
    cases b with
    | nil => cases h
    | cons d others =>
      have ih := ih (Nat.succ.inj h)
      simp only [List.cons_append, List.lex_lt, List.cons_lt_cons_iff, List.cons.injEq] at ih ⊢
      rw [ih]
      tauto

/-- The order of words after one more letter on either side. -/
theorem shortlex_concat {a b : List Char} {x y : Char} :
    List.Shortlex (· < ·) (a ++ [x]) (b ++ [y]) ↔
      List.Shortlex (· < ·) a b ∨ a = b ∧ x < y := by
  rw [List.shortlex_def, List.shortlex_def, List.length_append, List.length_append,
    List.length_singleton, List.length_singleton, Nat.add_lt_add_iff_right,
    Nat.add_right_cancel_iff]
  constructor
  · rintro (hlength | ⟨hlength, hlex⟩)
    · exact .inl (.inl hlength)
    · rcases (lex_concat hlength).mp hlex with hlex | hlast
      · exact .inl (.inr ⟨hlength, hlex⟩)
      · exact .inr hlast
  · rintro ((hlength | ⟨hlength, hlex⟩) | ⟨rfl, hlast⟩)
    · exact .inl hlength
    · exact .inr ⟨hlength, (lex_concat hlength).mpr (.inl hlex)⟩
    · exact .inr ⟨rfl, (lex_concat rfl).mpr (.inr ⟨rfl, hlast⟩)⟩

theorem columnLabel_inj {m n : Nat} : columnLabel m = columnLabel n ↔ m = n :=
  ⟨fun h => by rw [← labelValue_columnLabel m, h, labelValue_columnLabel], congrArg columnLabel⟩

/-- Labels are in the order of their columns: the quotients decide by induction, and if they are
equal the remainders do. -/
theorem columnLabel_shortlex_iff (m n : Nat) :
    List.Shortlex (· < ·) (columnLabel m) (columnLabel n) ↔ m < n := by
  induction m using columnLabel.induct generalizing n with
  | case1 =>
    rw [columnLabel_zero]
    by_cases hn : n = 0
    · subst hn
      rw [columnLabel_zero]
      exact iff_of_false List.not_shortlex_nil_right (by omega)
    · have hlength : 0 < (columnLabel n).length :=
        List.length_pos_iff.mpr (columnLabel_ne_nil (by omega))
      exact iff_of_true (.of_length_lt hlength) (by omega)
  | case2 m hm ih =>
    by_cases hn : n = 0
    · subst hn
      rw [columnLabel_zero]
      exact iff_of_false List.not_shortlex_nil_right (by omega)
    · have hremainder : (m - 1) % 26 < 26 := Nat.mod_lt _ (by decide)
      have hremainder' : (n - 1) % 26 < 26 := Nat.mod_lt _ (by decide)
      rw [columnLabel_of_ne_zero hm, columnLabel_of_ne_zero hn, shortlex_concat, ih,
        columnLabel_inj, columnLetter_lt_iff hremainder hremainder']
      omega

/-- Every column has a label, one or more of the letters from A to Z. Every such word is the label
of exactly one column, its value in bijective base 26; reading it accumulates this value, unless
it is above the limit. The columns are in the order of their labels: of two labels the shorter one
comes first, and of two that are equally long the one that comes first in the alphabet. -/
theorem columnLabel_orderIsomorphism :
    (∀ column, 1 ≤ column → IsLabel (columnLabel column)) ∧
      (∀ letters, IsLabel letters →
        (∃! column, 1 ≤ column ∧ columnLabel column = letters) ∧
          columnLabel (labelValue letters) = letters ∧
          columnOfLetters? letters =
            if labelValue letters ≤ maxIndex then some (labelValue letters) else none) ∧
      ∀ m n, m < n ↔
        (columnLabel m).length < (columnLabel n).length ∨
          (columnLabel m).length = (columnLabel n).length ∧ columnLabel m < columnLabel n := by
  refine ⟨fun column => isLabel_columnLabel, fun letters hletters => ⟨?_, ?_, ?_⟩, fun m n => ?_⟩
  · exact ⟨labelValue letters, ⟨hletters.one_le_labelValue, hletters.columnLabel_labelValue⟩,
      fun column hcolumn => hcolumn.2 ▸ (labelValue_columnLabel column).symm⟩
  · exact hletters.columnLabel_labelValue
  · rw [columnOfLetters?_eq, columnValue_of_isUpper hletters.isUpper]
    split_ifs <;> first | rfl | omega
  · rw [← columnLabel_shortlex_iff, List.shortlex_def, List.lex_lt]

/-- Behind the last label of two letters comes the first one of three. -/
theorem carry_adds_letter :
    IsLabel ['A', 'A', 'A'] ∧ labelValue ['A', 'A', 'A'] = 703 ∧
      (∃! column, 1 ≤ column ∧ columnLabel column = ['A', 'A', 'A']) ∧
      columnLabel 703 = ['A', 'A', 'A'] ∧ columnOfLetters? ['A', 'A', 'A'] = some 703 ∧
      IsLabel (columnLabel 702) := by
  have hlabel : IsLabel ['A', 'A', 'A'] := ⟨List.cons_ne_nil _ _, List.all_eq_true.mp (by decide)⟩
  have hvalue : labelValue ['A', 'A', 'A'] = 703 := by decide
  obtain ⟨hunique, hwritten, hread⟩ := columnLabel_orderIsomorphism.2.1 ['A', 'A', 'A'] hlabel
  rw [hvalue] at hwritten hread
  exact ⟨hlabel, hvalue, hunique, hwritten, hread,
    columnLabel_orderIsomorphism.1 702 (by decide)⟩

end WorkbookTools
