import Mathlib
import WorkbookTools.Proofs.Address.Columns

/-!
# The address that a text spells

Whatever else stands in a text and in whatever order, its ASCII letters in capitals spell a column
and its ASCII digits a row. The address is found if both are there and in range, and writing it
gives the canonical text: the letters, then the digits without the zeros in front.

* `dropWhile_zero_eq`: digits without the zeros in front are those of their number.
* `decodeAddress_eq_some_iff`: which address a text has.
* `reference_of_decodeAddress`: how the address of a text is written.
* `address_eq_iff`: which texts have the same address.

Main statement: `decodeAddress_canonicalises`.
-/

namespace WorkbookTools

/-! ## Digits without zeros in front -/

theorem digit_lt_ten {c : Char} (h : c.isDigit = true) : c.toNat - '0'.toNat < 10 := by
  have hrange : 48 ≤ c.toNat ∧ c.toNat ≤ 57 := Char.isDigit_iff_toNat.mp h
  have hzero : '0'.toNat = 48 := rfl
  omega

theorem toDigits_digit {c : Char} (h : c.isDigit = true) :
    Nat.toDigits 10 (c.toNat - '0'.toNat) = [c] := by
  have hrange : 48 ≤ c.toNat ∧ c.toNat ≤ 57 := Char.isDigit_iff_toNat.mp h
  have hzero : '0'.toNat = 48 := rfl
  have hdigit : Nat.digitChar (c.toNat - '0'.toNat) = c := by
    rw [← Char.toNat_inj, Nat.toNat_digitChar_of_lt_ten (digit_lt_ten h)]
    omega
  rw [Nat.toDigits_of_lt_base (digit_lt_ten h), hdigit]

theorem ofDigitChars_concat (digits : List Char) (c : Char) :
    Nat.ofDigitChars 10 (digits ++ [c]) 0 =
      10 * Nat.ofDigitChars 10 digits 0 + (c.toNat - '0'.toNat) := by
  rw [Nat.ofDigitChars_append, Nat.ofDigitChars_cons, Nat.ofDigitChars_nil]

/-- Without the zeros in front, digits are the ones in which their number is written; nothing is
left of zeros alone. -/
theorem dropWhile_zero_eq {digits : List Char} (h : ∀ c ∈ digits, c.isDigit = true) :
    digits.dropWhile (· = '0') =
      if Nat.ofDigitChars 10 digits 0 = 0 then []
      else Nat.toDigits 10 (Nat.ofDigitChars 10 digits 0) := by
  induction digits using List.reverseRecOn with
  | nil => rfl
  | append_singleton rest c ih =>
    have hlast : c.isDigit = true := h c (List.mem_append_right _ (List.mem_singleton_self c))
    have ih := ih fun x hx => h x (List.mem_append_left _ hx)
    rw [List.dropWhile_append, ofDigitChars_concat, ih]
    by_cases hrest : Nat.ofDigitChars 10 rest 0 = 0
    · rw [if_pos hrest, hrest, Nat.mul_zero, Nat.zero_add, List.isEmpty_nil, if_pos rfl]
      by_cases hzero : c = '0'
      · subst hzero
        rfl
      · have hpos : c.toNat - '0'.toNat ≠ 0 := by
          have hrange : 48 ≤ c.toNat ∧ c.toNat ≤ 57 := Char.isDigit_iff_toNat.mp hlast
          have hcode : c.toNat ≠ '0'.toNat := fun hsame => hzero (Char.toNat_inj.mp hsame)
          have hvalue : '0'.toNat = 48 := rfl
          omega
        rw [if_neg hpos, toDigits_digit hlast]
        simp [hzero]
    · have hpos : 0 < Nat.ofDigitChars 10 rest 0 := Nat.pos_of_ne_zero hrest
      have hnext : 10 * Nat.ofDigitChars 10 rest 0 + (c.toNat - '0'.toNat) ≠ 0 := by omega
      have happend := Nat.toDigits_append_toDigits (b := 10) (by decide) hpos (digit_lt_ten hlast)
      rw [if_neg hrest, if_neg hnext, ← happend, toDigits_digit hlast, if_neg]
      rw [List.isEmpty_iff]
      exact Nat.toDigits_ne_nil

/-! ## The address of a text -/

/-- The ASCII letters of a text, as capitals. -/
def capitalsOf (text : String) : List Char := (text.toList.filter Char.isAlpha).map Char.toUpper

/-- The ASCII digits of a text. -/
def digitsOf (text : String) : List Char := text.toList.filter Char.isDigit

/-- There are letters and digits in a text, not all digits are zeros, and the numbers that they
spell are not above the limit. -/
structure SpellsAddress (text : String) : Prop where
  capitals_ne_nil : capitalsOf text ≠ []
  digits_ne_nil : digitsOf text ≠ []
  not_all_zero : ∃ d ∈ digitsOf text, d ≠ '0'
  column_le : labelValue (capitalsOf text) ≤ maxIndex
  row_le : Nat.ofDigitChars 10 (digitsOf text) 0 ≤ maxIndex

variable {text : String} {a : CellAddress}

theorem isDigit_of_mem_digits {c : Char} (h : c ∈ digitsOf text) : c.isDigit = true :=
  (List.mem_filter.mp h).2

theorem isUpper_of_mem_capitals {c : Char} (h : c ∈ capitalsOf text) : c.isUpper = true := by
  obtain ⟨d, hd, rfl⟩ := List.mem_map.mp h
  rw [Char.isUpper_toUpper_eq_isAlpha]
  exact (List.mem_filter.mp hd).2

theorem columnValue_letters (text : String) :
    columnValue (text.toList.filter Char.isAlpha) = labelValue (capitalsOf text) :=
  columnValue_eq_labelValue fun _ hc => (List.mem_filter.mp hc).2

theorem row_eq_zero_iff :
    Nat.ofDigitChars 10 (digitsOf text) 0 = 0 ↔ ¬ ∃ d ∈ digitsOf text, d ≠ '0' := by
  have hdigits : ∀ c ∈ digitsOf text, c.isDigit = true := fun _ => isDigit_of_mem_digits
  have hdrop := dropWhile_zero_eq hdigits
  have hnil : (digitsOf text).dropWhile (· = '0') = [] ↔ ¬ ∃ d ∈ digitsOf text, d ≠ '0' := by
    simp
  rw [← hnil, hdrop]
  split
  · next hzero => exact iff_of_true hzero rfl
  · next hpos => exact iff_of_false hpos Nat.toDigits_ne_nil

theorem CellAddress.eq_of_row_column {a b : CellAddress} (hrow : a.row = b.row)
    (hcolumn : a.column = b.column) : a = b := by
  cases a
  cases b
  cases hrow
  cases hcolumn
  rfl

theorem ofPair?_eq_some_iff {row column : Nat} :
    CellAddress.ofPair? row column = some a ↔ row = a.row ∧ column = a.column := by
  rw [CellAddress.ofPair?]
  split
  · constructor
    · intro h
      cases h
      exact ⟨rfl, rfl⟩
    · rintro ⟨rfl, rfl⟩
      rfl
  · next hrange =>
    constructor
    · intro h
      cases h
    · rintro ⟨rfl, rfl⟩
      exact absurd ⟨⟨a.one_le_row, a.row_le⟩, a.one_le_column, a.column_le⟩ hrange

theorem isLabel_capitals (h : capitalsOf text ≠ []) : IsLabel (capitalsOf text) :=
  ⟨h, fun _ => isUpper_of_mem_capitals⟩

/-- Which address a text has. -/
theorem decodeAddress_eq_some_iff :
    decodeAddress text = some a ↔
      SpellsAddress text ∧ Nat.ofDigitChars 10 (digitsOf text) 0 = a.row ∧
        labelValue (capitalsOf text) = a.column := by
  have hcapitals : text.toList.filter Char.isAlpha = [] ↔ capitalsOf text = [] :=
    List.map_eq_nil_iff.symm
  rw [decodeAddress_eq, columnValue_letters, ← digitsOf]
  split
  · next hempty =>
    refine iff_of_false nofun fun h => ?_
    rcases hempty with hletters | hdigits
    · exact h.1.capitals_ne_nil (hcapitals.mp hletters)
    · exact h.1.digits_ne_nil hdigits
  · next hboth =>
    rw [not_or, hcapitals] at hboth
    rw [ofPair?_eq_some_iff]
    refine ⟨?_, fun h => h.2⟩
    rintro ⟨hrow, hcolumn⟩
    have hone := a.one_le_row
    have hnonzero : ∃ d ∈ digitsOf text, d ≠ '0' := by
      by_contra hzero
      rw [← row_eq_zero_iff] at hzero
      omega
    exact ⟨⟨hboth.1, hboth.2, hnonzero, hcolumn ▸ a.column_le, hrow ▸ a.row_le⟩, hrow, hcolumn⟩

theorem SpellsAddress.exists_address (h : SpellsAddress text) :
    ∃ a, decodeAddress text = some a := by
  have hrow : 1 ≤ Nat.ofDigitChars 10 (digitsOf text) 0 := by
    rw [Nat.one_le_iff_ne_zero, Ne, row_eq_zero_iff, not_not]
    exact h.not_all_zero
  have hcolumn := (isLabel_capitals h.capitals_ne_nil).one_le_labelValue
  exact ⟨⟨_, _, hrow, h.row_le, hcolumn, h.column_le⟩,
    decodeAddress_eq_some_iff.mpr ⟨h, rfl, rfl⟩⟩

/-- The digits of the row, as they are written. -/
theorem SpellsAddress.dropWhile_zero_eq (h : SpellsAddress text) :
    (digitsOf text).dropWhile (· = '0') =
      Nat.toDigits 10 (Nat.ofDigitChars 10 (digitsOf text) 0) := by
  rw [WorkbookTools.dropWhile_zero_eq fun _ => isDigit_of_mem_digits, if_neg]
  rw [row_eq_zero_iff, not_not]
  exact h.not_all_zero

/-- The address of a text is written as its capitals and its digits. -/
theorem reference_of_decodeAddress (h : decodeAddress text = some a) :
    a.reference = String.ofList (capitalsOf text ++ (digitsOf text).dropWhile (· = '0')) := by
  obtain ⟨hspells, hrow, hcolumn⟩ := decodeAddress_eq_some_iff.mp h
  rw [CellAddress.reference, cellName, hspells.dropWhile_zero_eq, ← hrow, ← hcolumn,
    (isLabel_capitals hspells.capitals_ne_nil).columnLabel_labelValue]

/-- With a row that is not zero, what has been read of the letters and digits makes an address. -/
theorem exists_ofPair?_of_read {row column : Nat} (hletters : text.toList.filter Char.isAlpha ≠ [])
    (hrow : rowOfDigits? (text.toList.filter Char.isDigit) = some row)
    (hcolumn : columnOfLetters? (text.toList.filter Char.isAlpha) = some column)
    (hone : 1 ≤ row) : ∃ a, CellAddress.ofPair? row column = some a := by
  rw [rowOfDigits?_eq] at hrow
  rw [columnOfLetters?_eq, columnValue_letters] at hcolumn
  have hpos := (isLabel_capitals (mt List.map_eq_nil_iff.mp hletters)).one_le_labelValue
  split at hrow
  · cases hrow
  · split at hcolumn
    · cases hcolumn
    · cases hrow
      cases hcolumn
      exact ⟨_, dif_pos (by omega)⟩

/-- Texts have the same address just if they agree in their capitals and digits. -/
theorem address_eq_iff {text' : String} {a' : CellAddress} (h : decodeAddress text = some a)
    (h' : decodeAddress text' = some a') :
    a = a' ↔ capitalsOf text = capitalsOf text' ∧
      (digitsOf text).dropWhile (· = '0') = (digitsOf text').dropWhile (· = '0') := by
  obtain ⟨hspells, hrow, hcolumn⟩ := decodeAddress_eq_some_iff.mp h
  obtain ⟨hspells', hrow', hcolumn'⟩ := decodeAddress_eq_some_iff.mp h'
  constructor
  · rintro rfl
    constructor
    · rw [← (isLabel_capitals hspells.capitals_ne_nil).columnLabel_labelValue, hcolumn,
        ← hcolumn', (isLabel_capitals hspells'.capitals_ne_nil).columnLabel_labelValue]
    · rw [hspells.dropWhile_zero_eq, hspells'.dropWhile_zero_eq, hrow, hrow']
  · rintro ⟨hcapitals, hdigits⟩
    refine CellAddress.eq_of_row_column ?_ ?_
    · rw [hspells.dropWhile_zero_eq, hspells'.dropWhile_zero_eq, hrow, hrow'] at hdigits
      have hvalue := congrArg (Nat.ofDigitChars 10 · 0) hdigits
      simpa only [Nat.ofDigitChars_ten_toDigits] using hvalue
    · rw [← hcolumn, ← hcolumn', hcapitals]

/-- A text has an address just if it has letters and digits, the digits are not all zeros, and the
values of both are not above the limit. The address has these values, so it exists whenever the
digits and the letters have been read and the row is not zero, and it is written as the letters in
capitals followed by the digits without the zeros in front. Hence texts have the same address just
if they agree in these letters and digits. -/
theorem decodeAddress_canonicalises :
    (∀ text, (∃ a, decodeAddress text = some a) ↔ SpellsAddress text) ∧
      (∀ (text : String) (row column : Nat), text.toList.filter Char.isAlpha ≠ [] →
        rowOfDigits? (text.toList.filter Char.isDigit) = some row →
        columnOfLetters? (text.toList.filter Char.isAlpha) = some column → 1 ≤ row →
        ∃ a, CellAddress.ofPair? row column = some a) ∧
      (∀ text a, decodeAddress text = some a →
        a.row = Nat.ofDigitChars 10 (digitsOf text) 0 ∧ a.column = labelValue (capitalsOf text) ∧
          encodeAddress a.row a.column =
            .ok (some (String.ofList (capitalsOf text ++ (digitsOf text).dropWhile (· = '0'))))) ∧
      ∀ text text' a a', decodeAddress text = some a → decodeAddress text' = some a' →
        (a = a' ↔ capitalsOf text = capitalsOf text' ∧
          (digitsOf text).dropWhile (· = '0') = (digitsOf text').dropWhile (· = '0')) := by
  refine ⟨fun text => ⟨?_, SpellsAddress.exists_address⟩,
    fun text row column => exists_ofPair?_of_read, fun text a h => ?_,
    fun text text' a a' => address_eq_iff⟩
  · rintro ⟨a, h⟩
    exact (decodeAddress_eq_some_iff.mp h).1
  · obtain ⟨-, hrow, hcolumn⟩ := decodeAddress_eq_some_iff.mp h
    refine ⟨hrow.symm, hcolumn.symm, ?_⟩
    rw [← reference_of_decodeAddress h, encodeAddress_cellAddress]

/-- Letters and digits that stand in between each other, with other characters and a zero in front,
spell the same address as the reference that is written for it. -/
theorem scattered_text_spells_reference :
    ∃ a, decodeAddress "0x1é2b" = some a ∧ decodeAddress "XB12" = some a ∧
      SpellsAddress "0x1é2b" ∧ a.row = Nat.ofDigitChars 10 (digitsOf "0x1é2b") 0 ∧
      encodeAddress a.row a.column = .ok (some "XB12") ∧
      capitalsOf "0x1é2b" = capitalsOf "XB12" ∧
      ∃ b, CellAddress.ofPair? 12 626 = some b := by
  obtain ⟨hfound, hread, hwritten, hsame⟩ := decodeAddress_canonicalises
  have haddress : decodeAddress "0x1é2b" =
      some ⟨12, 626, by decide, by decide, by decide, by decide⟩ := by decide
  have hreference : decodeAddress "XB12" =
      some ⟨12, 626, by decide, by decide, by decide, by decide⟩ := by decide
  obtain ⟨hrow, -, hencoded⟩ := hwritten _ _ haddress
  exact ⟨_, haddress, hreference, (hfound _).mp ⟨_, haddress⟩, hrow, hencoded,
    ((hsame _ _ _ _ haddress hreference).mp rfl).1,
    hread "XB12" 12 626 (by decide) (by decide) (by decide) (by decide)⟩

end WorkbookTools
