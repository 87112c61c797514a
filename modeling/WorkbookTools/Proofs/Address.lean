import Mathlib.Data.List.Basic
import WorkbookTools.Address

/-!
# References that are written and read again

The name of a cell is its column in letters followed by its row in digits, so reading it finds the
two apart. The limit is looked at after every digit that is read, which comes to the same as looking
at the number that all digits make. Every pair of positive integers has a name, but only names whose
rows have at most `IntegerText.maxDigits` digits are written as references.

* `columnValue_columnLabel`: the letters of a column have the column as their value.
* `decodeAddress_eq`: what a text spells, in terms of the values of its letters and its digits.
* `decodeAddress_cellName`: a name is read as its own row and column, if both are in range.
* `encodeAddress_eq_ok_some`, `encodeAddress_eq_error`: the pairs that have a reference.
* `roundTrips_iff`: the pairs that are written and read as they should be.

Main statement: `encodeAddress_roundTrip`.
-/

namespace WorkbookTools

/-! ## Digits and the limit -/

theorem le_foldl_digits {base : Nat} (hbase : 1 ≤ base) (digit : Char → Nat) (digits : List Char)
    (n : Nat) : n ≤ digits.foldl (fun n c => n * base + digit c) n := by
  induction digits generalizing n with
  | nil => exact Nat.le_refl n
  | cons c rest ih =>
    have hmul : n ≤ n * base := Nat.le_mul_of_pos_right n hbase
    exact Nat.le_trans (by omega) (ih (n * base + digit c))

/-- A number that is above the limit once stays above it, so the limit may be looked at last. -/
theorem foldlM_appendDigit? {base : Nat} (hbase : 1 ≤ base) (digit : Char → Nat)
    (digits : List Char) {n : Nat} (hn : n ≤ maxIndex) :
    digits.foldlM (fun n c => appendDigit? base n (digit c)) n =
      if maxIndex < digits.foldl (fun n c => n * base + digit c) n then none
      else some (digits.foldl (fun n c => n * base + digit c) n) := by
  induction digits generalizing n with
  | nil =>
    rw [List.foldlM_nil, List.foldl_nil, if_neg (by omega)]
    rfl
  | cons c rest ih =>
    rw [List.foldlM_cons, List.foldl_cons, appendDigit?]
    by_cases hnext : maxIndex < n * base + digit c
    · have hlater := le_foldl_digits hbase digit rest (n * base + digit c)
      rw [if_pos hnext, if_pos (by omega)]
      rfl
    · rw [if_neg hnext]
      exact ih (by omega)

/-- The number that a run of letters spells in bijective base 26. -/
def columnValue (letters : List Char) : Nat :=
  letters.foldl (fun column letter => column * 26 + columnDigit letter) 0

theorem columnOfLetters?_eq (letters : List Char) :
    columnOfLetters? letters =
      if maxIndex < columnValue letters then none else some (columnValue letters) :=
  foldlM_appendDigit? (by decide) columnDigit letters (by decide)

theorem rowOfDigits?_eq (digits : List Char) :
    rowOfDigits? digits =
      if maxIndex < Nat.ofDigitChars 10 digits 0 then none
      else some (Nat.ofDigitChars 10 digits 0) := by
  have hvalue : Nat.ofDigitChars 10 digits 0 =
      digits.foldl (fun row digit => row * 10 + (digit.toNat - 48)) 0 := by
    simp only [Nat.ofDigitChars_eq_foldl, Nat.mul_comm 10]
    rfl
  rw [hvalue]
  exact foldlM_appendDigit? (by decide) (fun digit => digit.toNat - 48) digits (by decide)

/-! ## Columns -/

theorem columnDigit_columnLetter (d : Nat) : columnDigit (columnLetter d) = d % 26 + 1 := by
  have hall : ∀ d : Fin 26, columnDigit (Char.ofNat (65 + d)) = d + 1 := by decide
  exact hall ⟨d % 26, Nat.mod_lt d (by decide)⟩

theorem isUpper_columnLetter (d : Nat) : (columnLetter d).isUpper = true := by
  have hall : ∀ d : Fin 26, (Char.ofNat (65 + d)).isUpper = true := by decide
  exact hall ⟨d % 26, Nat.mod_lt d (by decide)⟩

theorem columnValue_concat (letters : List Char) (c : Char) :
    columnValue (letters ++ [c]) = columnValue letters * 26 + columnDigit c := by
  rw [columnValue, List.foldl_append]
  rfl

/-- The letters of a column have the column as their value. -/
theorem columnValue_columnLabel (column : Nat) : columnValue (columnLabel column) = column := by
  induction column using columnLabel.induct with
  | case1 =>
    rw [columnLabel, if_pos rfl]
    rfl
  | case2 column hpos ih =>
    rw [columnLabel, if_neg hpos, columnValue_concat, ih, columnDigit_columnLetter]
    omega

theorem isUpper_of_mem_columnLabel {column : Nat} {c : Char} (h : c ∈ columnLabel column) :
    c.isUpper = true := by
  induction column using columnLabel.induct with
  | case1 =>
    rw [columnLabel, if_pos rfl] at h
    cases h
  | case2 column hpos ih =>
    rw [columnLabel, if_neg hpos, List.mem_append, List.mem_singleton] at h
    rcases h with h | rfl
    · exact ih h
    · exact isUpper_columnLetter _

theorem columnLabel_ne_nil {column : Nat} (h : 1 ≤ column) : columnLabel column ≠ [] := by
  rw [columnLabel, if_neg (by omega)]
  simp

/-! ## References -/

theorem isAlpha_of_isUpper {c : Char} (h : c.isUpper = true) : c.isAlpha = true :=
  Bool.or_eq_true_iff.mpr (.inl h)

/-- All letters come after the digits. -/
theorem not_isDigit_of_isAlpha {c : Char} (h : c.isAlpha = true) : c.isDigit = false := by
  have hletter : 65 ≤ c.toNat := by
    rcases Bool.or_eq_true_iff.mp h with hupper | hlower
    · have hupper : 65 ≤ c.val ∧ c.val ≤ 90 := of_decide_eq_true hupper
      exact hupper.1
    · have hlower : 97 ≤ c.val := of_decide_eq_true (Bool.and_eq_true_iff.mp hlower).1
      have hlower : 97 ≤ c.toNat := hlower
      omega
  rw [Bool.eq_false_iff]
  intro hdigit
  have hhigh : c.toNat ≤ 57 := (Char.isDigit_iff_toNat.mp hdigit).2
  omega

theorem filter_isAlpha_cellName (row column : Nat) :
    (columnLabel column ++ Nat.toDigits 10 row).filter Char.isAlpha = columnLabel column := by
  have hletters : (columnLabel column).filter Char.isAlpha = columnLabel column :=
    List.filter_eq_self.mpr fun c hc => isAlpha_of_isUpper (isUpper_of_mem_columnLabel hc)
  have hdigits : (Nat.toDigits 10 row).filter Char.isAlpha = [] := by
    refine List.filter_eq_nil_iff.mpr fun c hc halpha => ?_
    have hdigit := Nat.isDigit_of_mem_toDigits (by decide) (by decide) hc
    rw [not_isDigit_of_isAlpha halpha] at hdigit
    cases hdigit
  rw [List.filter_append, hletters, hdigits, List.append_nil]

theorem filter_isDigit_cellName (row column : Nat) :
    (columnLabel column ++ Nat.toDigits 10 row).filter Char.isDigit = Nat.toDigits 10 row := by
  have hletters : (columnLabel column).filter Char.isDigit = [] := by
    refine List.filter_eq_nil_iff.mpr fun c hc hdigit => ?_
    rw [not_isDigit_of_isAlpha (isAlpha_of_isUpper (isUpper_of_mem_columnLabel hc))] at hdigit
    cases hdigit
  have hdigits : (Nat.toDigits 10 row).filter Char.isDigit = Nat.toDigits 10 row :=
    List.filter_eq_self.mpr fun c hc => Nat.isDigit_of_mem_toDigits (by decide) (by decide) hc
  rw [List.filter_append, hletters, hdigits, List.nil_append]

/-- What a text spells: the early ends of reading come to the same as the limits of addresses. -/
theorem decodeAddress_eq (text : String) :
    decodeAddress text =
      if text.toList.filter Char.isAlpha = [] ∨ text.toList.filter Char.isDigit = [] then none
      else
        CellAddress.ofPair? (Nat.ofDigitChars 10 (text.toList.filter Char.isDigit) 0)
          (columnValue (text.toList.filter Char.isAlpha)) := by
  rw [decodeAddress]
  split
  · rfl
  · rw [rowOfDigits?_eq, columnOfLetters?_eq, CellAddress.ofPair?]
    split
    · rw [dif_neg (by omega)]
      rfl
    · split
      · rw [dif_neg (by omega)]
        rfl
      · rfl

/-- A name is read as its own row and column, if both are in range. -/
theorem decodeAddress_cellName (row : Nat) {column : Nat} (hcolumn : 1 ≤ column) :
    decodeAddress (cellName row column) = CellAddress.ofPair? row column := by
  rw [decodeAddress_eq, cellName, String.toList_ofList, filter_isAlpha_cellName,
    filter_isDigit_cellName, columnValue_columnLabel, Nat.ofDigitChars_ten_toDigits,
    if_neg (not_or.mpr ⟨columnLabel_ne_nil hcolumn, Nat.toDigits_ne_nil⟩)]

/-- A coordinate above the limit is noticed while its letters or digits are read. -/
theorem read_cellName_eq_none {row column : Nat} (h : maxIndex < row ∨ maxIndex < column) :
    rowOfDigits? ((cellName row column).toList.filter Char.isDigit) = none ∨
      columnOfLetters? ((cellName row column).toList.filter Char.isAlpha) = none := by
  rw [cellName, String.toList_ofList, filter_isDigit_cellName, filter_isAlpha_cellName,
    rowOfDigits?_eq, columnOfLetters?_eq, Nat.ofDigitChars_ten_toDigits, columnValue_columnLabel]
  rcases h with hrow | hcolumn
  · exact .inl (if_pos hrow)
  · exact .inr (if_pos hcolumn)

theorem cellName_injective {row column row' column' : Nat}
    (h : cellName row column = cellName row' column') : row = row' ∧ column = column' := by
  have hlist : columnLabel column ++ Nat.toDigits 10 row =
      columnLabel column' ++ Nat.toDigits 10 row' := String.ofList_injective h
  have hdigits := congrArg (List.filter Char.isDigit) hlist
  have hletters := congrArg (List.filter Char.isAlpha) hlist
  rw [filter_isDigit_cellName, filter_isDigit_cellName] at hdigits
  rw [filter_isAlpha_cellName, filter_isAlpha_cellName] at hletters
  constructor
  · rw [← Nat.ofDigitChars_ten_toDigits (n := row), hdigits, Nat.ofDigitChars_ten_toDigits]
  · rw [← columnValue_columnLabel column, hletters, columnValue_columnLabel]

theorem isAlphanum_of_mem_cellName {row column : Nat} {c : Char}
    (h : c ∈ (cellName row column).toList) : c.isAlphanum = true := by
  rw [cellName, String.toList_ofList, List.mem_append] at h
  rcases h with h | h
  · simp [Char.isAlphanum, isAlpha_of_isUpper (isUpper_of_mem_columnLabel h)]
  · simp [Char.isAlphanum, Nat.isDigit_of_mem_toDigits (by decide) (by decide) h]

/-! ## Pairs of integers -/

theorem encodeAddress_eq_ok_none {row column : Int} :
    encodeAddress row column = .ok none ↔ row < 1 ∨ column < 1 := by
  unfold encodeAddress
  rw [reference_eq]
  split
  · simp_all
  · split <;> simp_all [Except.map]

/-- The pairs that have a reference. -/
theorem encodeAddress_eq_ok_some {row column : Int} {text : String} :
    encodeAddress row column = .ok (some text) ↔
      1 ≤ row ∧ 1 ≤ column ∧ row.toNat < IntegerText.bound ∧
        text = cellName row.toNat column.toNat := by
  unfold encodeAddress
  rw [reference_eq]
  split
  · next hbelow =>
    refine iff_of_false nofun fun h => ?_
    omega
  · next hpositive =>
    split
    · next hshort =>
      refine ⟨fun h => ⟨by omega, by omega, hshort, ?_⟩, ?_⟩
      · cases h
        rfl
      · rintro ⟨-, -, -, rfl⟩
        rfl
    · next hlong => exact iff_of_false nofun fun h => hlong h.2.2.1

/-- Of positive pairs, those with too many digits in the row are not written. -/
theorem encodeAddress_eq_error {row column : Int} {e : NumeralFault} :
    encodeAddress row column = .error e ↔
      1 ≤ row ∧ 1 ≤ column ∧ IntegerText.bound ≤ row.toNat := by
  unfold encodeAddress
  rw [reference_eq]
  cases e
  split
  · next hbelow =>
    refine iff_of_false nofun fun h => ?_
    omega
  · next hpositive =>
    split
    · next hshort => exact iff_of_false nofun fun h => Nat.not_lt.mpr h.2.2 hshort
    · next hlong => exact iff_of_true rfl ⟨by omega, by omega, Nat.not_lt.mp hlong⟩

theorem encodeAddress_injective {row column row' column' : Int} {text : String}
    (h : encodeAddress row column = .ok (some text))
    (h' : encodeAddress row' column' = .ok (some text)) : row = row' ∧ column = column' := by
  obtain ⟨hrow, hcolumn, -, rfl⟩ := encodeAddress_eq_ok_some.mp h
  obtain ⟨hrow', hcolumn', -, hsame⟩ := encodeAddress_eq_ok_some.mp h'
  have hpair := cellName_injective hsame
  omega

/-- An address has a reference. -/
theorem encodeAddress_cellAddress (a : CellAddress) :
    encodeAddress a.row a.column = .ok (some a.reference) := by
  have hmax : maxIndex < IntegerText.bound := by decide +kernel
  refine encodeAddress_eq_ok_some.mpr ⟨Int.ofNat_le.mpr a.one_le_row,
    Int.ofNat_le.mpr a.one_le_column, ?_, ?_⟩
  · exact Nat.lt_of_le_of_lt a.row_le hmax
  · rfl

/-! ## Rectangles -/

variable {firstRow firstColumn lastRow lastColumn : Int} {text : String}

/-- A rectangle has a reference if both corners have one. -/
theorem encodeRange_eq_ok_some :
    encodeRange firstRow firstColumn lastRow lastColumn = .ok (some text) ↔
      ∃ first last, encodeAddress firstRow firstColumn = .ok (some first) ∧
        encodeAddress lastRow lastColumn = .ok (some last) ∧ text = first ++ ":" ++ last := by
  unfold encodeRange
  rcases encodeAddress firstRow firstColumn with e | _ | first <;>
    rcases encodeAddress lastRow lastColumn with e' | _ | last <;>
    simp [bind, Except.bind, pure, Except.pure, eq_comm]

theorem encodeRange_eq_error {e : NumeralFault} :
    encodeRange firstRow firstColumn lastRow lastColumn = .error e ↔
      encodeAddress firstRow firstColumn = .error e ∨
        encodeAddress lastRow lastColumn = .error e := by
  unfold encodeRange
  cases e
  rcases encodeAddress firstRow firstColumn with ⟨⟩ | _ | first <;>
    rcases encodeAddress lastRow lastColumn with ⟨⟩ | _ | last <;>
    simp [bind, Except.bind, pure, Except.pure]

/-- Without a corner that is not written, a rectangle lacks a reference if a corner does. -/
theorem encodeRange_eq_ok_none :
    encodeRange firstRow firstColumn lastRow lastColumn = .ok none ↔
      encodeRange firstRow firstColumn lastRow lastColumn ≠ .error .tooLong ∧
        ((firstRow < 1 ∨ firstColumn < 1) ∨ lastRow < 1 ∨ lastColumn < 1) := by
  rw [← encodeAddress_eq_ok_none, ← encodeAddress_eq_ok_none]
  unfold encodeRange
  rcases encodeAddress firstRow firstColumn with ⟨⟩ | _ | first <;>
    rcases encodeAddress lastRow lastColumn with ⟨⟩ | _ | last <;>
    simp [bind, Except.bind, pure, Except.pure]

theorem colon_notMem_of_encodeAddress {row column : Int} {text : String}
    (h : encodeAddress row column = .ok (some text)) : ':' ∉ text.toList := by
  obtain ⟨-, -, -, rfl⟩ := encodeAddress_eq_ok_some.mp h
  intro hcolon
  have halphanum := isAlphanum_of_mem_cellName hcolon
  revert halphanum
  decide

/-- Two texts around a colon are found again if they have no colon of their own. -/
theorem append_colon_injective {first last first' last' : String} (hfirst : ':' ∉ first.toList)
    (hlast : ':' ∉ last.toList) (h : first ++ ":" ++ last = first' ++ ":" ++ last') :
    first = first' ∧ last = last' := by
  have hlist := congrArg String.toList h
  simp only [String.toList_append, List.append_assoc] at hlist
  obtain ⟨hleft, -, hright⟩ := (List.append_cons_inj_of_notMem hfirst hlast).mp hlist
  exact ⟨String.toList_injective hleft, String.toList_injective hright⟩

/-! ## The result -/

/-- What is asked of a pair of integers: it lacks a reference just if one of them is not positive, and
a reference that it has is read as the pair, or as no address if one of them is above the limit, which
shows while it is read. -/
structure RoundTrips (row column : Int) : Prop where
  unwritten : encodeAddress row column = .ok none ↔ row < 1 ∨ column < 1
  written : 1 ≤ row → 1 ≤ column → ∃ text, encodeAddress row column = .ok (some text)
  inRange : ∀ text, encodeAddress row column = .ok (some text) → row ≤ maxIndex →
    column ≤ maxIndex →
    ∃ a, decodeAddress text = some a ∧ (a.row : Int) = row ∧ (a.column : Int) = column
  beyond : ∀ text, encodeAddress row column = .ok (some text) →
    (maxIndex : Int) < row ∨ (maxIndex : Int) < column →
    decodeAddress text = none ∧ (rowOfDigits? (text.toList.filter Char.isDigit) = none ∨
      columnOfLetters? (text.toList.filter Char.isAlpha) = none)

theorem roundTrips_iff {row column : Int} :
    RoundTrips row column ↔ ¬ (1 ≤ row ∧ 1 ≤ column ∧ IntegerText.bound ≤ row.toNat) := by
  constructor
  · rintro h ⟨hrow, hcolumn, hlong⟩
    obtain ⟨text, htext⟩ := h.written hrow hcolumn
    exact Nat.not_lt.mpr hlong (encodeAddress_eq_ok_some.mp htext).2.2.1
  · intro hshort
    refine ⟨encodeAddress_eq_ok_none, fun hrow hcolumn => ?_, fun text h hrowLe hcolumnLe => ?_,
      fun text h hlarge => ?_⟩
    · exact ⟨_, encodeAddress_eq_ok_some.mpr
        ⟨hrow, hcolumn, Nat.lt_of_not_le fun hlong => hshort ⟨hrow, hcolumn, hlong⟩, rfl⟩⟩
    all_goals
      obtain ⟨hrow, hcolumn, -, rfl⟩ := encodeAddress_eq_ok_some.mp h
      have hcolumnPos : 1 ≤ column.toNat := by omega
      rw [decodeAddress_cellName row.toNat hcolumnPos, CellAddress.ofPair?]
    · rw [dif_pos (by omega)]
      exact ⟨_, rfl, Int.toNat_of_nonneg (by omega), Int.toNat_of_nonneg (by omega)⟩
    · rw [dif_neg (by omega)]
      exact ⟨rfl, read_cellName_eq_none (by omega)⟩

/-- A pair of integers is written and read as it should be, unless both are positive and the row has
more than `IntegerText.maxDigits` digits; then it is not written at all. Other pairs have other
references. A rectangle fails as its corners do; it is written as their references around a colon that
stands in neither of them, so other rectangles are written otherwise. -/
theorem encodeAddress_roundTrip (row column : Int) :
    (RoundTrips row column ↔ ¬ (1 ≤ row ∧ 1 ≤ column ∧ IntegerText.bound ≤ row.toNat)) ∧
    (encodeAddress row column = .error .tooLong ↔
      1 ≤ row ∧ 1 ≤ column ∧ IntegerText.bound ≤ row.toNat) ∧
    (∀ (row' column' : Int) (text : String), encodeAddress row column = .ok (some text) →
      encodeAddress row' column' = .ok (some text) → row = row' ∧ column = column') ∧
    ∀ lastRow lastColumn : Int,
      (encodeRange row column lastRow lastColumn = .error .tooLong ↔
        encodeAddress row column = .error .tooLong ∨
          encodeAddress lastRow lastColumn = .error .tooLong) ∧
      (encodeRange row column lastRow lastColumn = .ok none ↔
        encodeRange row column lastRow lastColumn ≠ .error .tooLong ∧
          ((row < 1 ∨ column < 1) ∨ lastRow < 1 ∨ lastColumn < 1)) ∧
      ∀ text, encodeRange row column lastRow lastColumn = .ok (some text) →
        (∃ first last, encodeAddress row column = .ok (some first) ∧
          encodeAddress lastRow lastColumn = .ok (some last) ∧
          text = first ++ ":" ++ last ∧ ':' ∉ first.toList ∧ ':' ∉ last.toList) ∧
        ∀ row' column' lastRow' lastColumn' : Int,
          encodeRange row' column' lastRow' lastColumn' = .ok (some text) →
          (row' = row ∧ column' = column) ∧ lastRow' = lastRow ∧ lastColumn' = lastColumn := by
  refine ⟨roundTrips_iff, encodeAddress_eq_error, fun row' column' text h h' =>
    encodeAddress_injective h h', fun lastRow lastColumn =>
      ⟨encodeRange_eq_error, encodeRange_eq_ok_none, fun text h => ?_⟩⟩
  obtain ⟨first, last, hfirst, hlast, rfl⟩ := encodeRange_eq_ok_some.mp h
  have hfirstColon := colon_notMem_of_encodeAddress hfirst
  have hlastColon := colon_notMem_of_encodeAddress hlast
  refine ⟨⟨first, last, hfirst, hlast, rfl, hfirstColon, hlastColon⟩,
    fun row' column' lastRow' lastColumn' hother => ?_⟩
  obtain ⟨first', last', hfirst', hlast', hsame⟩ := encodeRange_eq_ok_some.mp hother
  obtain ⟨rfl, rfl⟩ := append_colon_injective hfirstColon hlastColon hsame
  exact ⟨encodeAddress_injective hfirst' hfirst, encodeAddress_injective hlast' hlast⟩

/-- The first row that has too many digits. -/
theorem long_row_is_not_written :
    ¬ RoundTrips IntegerText.bound 1 ∧ encodeAddress IntegerText.bound 1 = .error .tooLong ∧
      encodeRange IntegerText.bound 1 IntegerText.bound 1 = .error .tooLong := by
  have hrow : 1 ≤ IntegerText.bound := by decide +kernel
  have hlong : encodeAddress IntegerText.bound 1 = .error .tooLong :=
    encodeAddress_eq_error.mpr ⟨Int.ofNat_le.mpr hrow, Int.le_refl 1,
      Nat.le_of_eq (Int.toNat_natCast _).symm⟩
  exact ⟨fun h => roundTrips_iff.mp h (encodeAddress_eq_error.mp hlong), hlong,
    encodeRange_eq_error.mpr (.inl hlong)⟩

/-- The carries of the column and the limit of the row. -/
example : encodeAddress 4294967295 702 = .ok (some "ZZ4294967295") ∧
    decodeAddress "ZZ4294967295" = some ⟨4294967295, 702, by decide, by decide, by decide,
      by decide⟩ ∧
    decodeAddress "ZZ4294967296" = none := by
  decide +kernel

end WorkbookTools
