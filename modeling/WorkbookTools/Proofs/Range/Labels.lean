import Mathlib.Data.List.DropRight
import WorkbookTools.Proofs.Range.Read

/-!
# Values with their references

A range is read in one of two ways: as a table of values, or as a list of labels, one for each value
that is not blank, with its text, a marker and the reference of its cell. The text may contain the
marker too, so a label is cut at its last marker: a reference has letters and digits only.

* `Rectangle.placed`: the values of a table with their places, row by row.
* `labelled_eq`: the labels of a table are those of its filled places.
* `splitAtLast_label`: a label cut at its last marker.

Main statement: `labels_tell_filled_cells`.
-/

namespace WorkbookTools

open WorkbookTools.Action

/-! ## Values with places -/

/-- A value and the place on the sheet where it was read. -/
structure PlacedValue where
  row : Nat
  column : Nat
  value : Scalar
  deriving DecidableEq, Repr

namespace PlacedValue

/-- The written form of the value, a marker and the reference of the place. -/
def label (c : PlacedValue) : String := c.value.display ++ "@" ++ cellName c.row c.column

/-- The order in which a sheet is read: row by row, and in a row from left to right. -/
def Before (a b : PlacedValue) : Prop := a.row < b.row ∨ a.row = b.row ∧ a.column < b.column

theorem Before.ne {a b : PlacedValue} (h : Before a b) :
    ¬ (a.row = b.row ∧ a.column = b.column) := by
  unfold Before at h
  omega

end PlacedValue

namespace Rectangle

/-- The values of a table with the places where a rectangle has them. -/
def placed (r : Rectangle) (rows : List (List Scalar)) : List PlacedValue :=
  (List.range r.height).flatMap fun i =>
    (List.range r.width).filterMap fun j =>
      (entry rows i j).map fun v => ⟨r.firstRow + i, r.firstColumn + j, v⟩

/-- The values with places that are neither null nor the empty text. -/
def filled (r : Rectangle) (rows : List (List Scalar)) : List PlacedValue :=
  (r.placed rows).filter fun c => c.value ≠ .null ∧ c.value ≠ .text ""

variable {r : Rectangle} {rows : List (List Scalar)}

theorem mem_placed {c : PlacedValue} :
    c ∈ r.placed rows ↔ ∃ i j, i < r.height ∧ j < r.width ∧ entry rows i j = some c.value ∧
      c.row = r.firstRow + i ∧ c.column = r.firstColumn + j := by
  simp only [placed, List.mem_flatMap, List.mem_filterMap, List.mem_range, Option.map_eq_some_iff]
  constructor
  · rintro ⟨i, hi, j, hj, v, hentry, rfl⟩
    exact ⟨i, j, hi, hj, hentry, rfl, rfl⟩
  · rintro ⟨i, j, hi, hj, hentry, hrow, hcolumn⟩
    exact ⟨i, hi, j, hj, c.value, hentry, by rw [← hrow, ← hcolumn]⟩

theorem mem_filled {c : PlacedValue} :
    c ∈ r.filled rows ↔ c ∈ r.placed rows ∧ c.value ≠ .null ∧ c.value ≠ .text "" := by
  simp only [filled, List.mem_filter, decide_eq_true_eq]

theorem placed_pairwise : (r.placed rows).Pairwise PlacedValue.Before := by
  refine List.pairwise_flatMap.mpr ⟨fun i _ => ?_, ?_⟩
  · refine List.pairwise_lt_range.filterMap _ fun j j' hlt a ha b hb => ?_
    obtain ⟨v, -, rfl⟩ := Option.map_eq_some_iff.mp ha
    obtain ⟨v', -, rfl⟩ := Option.map_eq_some_iff.mp hb
    exact .inr ⟨rfl, Nat.add_lt_add_left hlt _⟩
  · refine List.pairwise_lt_range.imp fun {i i'} hlt a ha b hb => ?_
    obtain ⟨j, -, ha⟩ := List.mem_filterMap.mp ha
    obtain ⟨j', -, hb⟩ := List.mem_filterMap.mp hb
    obtain ⟨v, -, rfl⟩ := Option.map_eq_some_iff.mp ha
    obtain ⟨v', -, rfl⟩ := Option.map_eq_some_iff.mp hb
    exact .inl (Nat.add_lt_add_left hlt _)

theorem filled_pairwise : (r.filled rows).Pairwise PlacedValue.Before :=
  placed_pairwise.filter _

end Rectangle

/-! ## Tables -/

/-- The table has the height and the width of the rectangle. -/
structure Rectangle.Fits (r : Rectangle) (rows : List (List Scalar)) : Prop where
  height : rows.length = r.height
  width : ∀ row ∈ rows, row.length = r.width

/-- A list with positions, as one entry for each position. -/
theorem zipIdx_eq_map {α : Type} (l : List α) (default : α) (n : Nat) :
    l.zipIdx n = (List.range l.length).map fun i => (l[i]?.getD default, n + i) := by
  refine List.ext_getElem (by simp) fun i hi _ => ?_
  have hi : i < l.length := by rwa [List.length_zipIdx] at hi
  simp [List.getElem?_eq_getElem hi]

/-- The values of a row with their places. -/
def placedRow (row firstColumn : Nat) (values : List Scalar) : List PlacedValue :=
  (values.zipIdx firstColumn).map fun (v, column) => ⟨row, column, v⟩

theorem map_value_placedRow (row firstColumn : Nat) (values : List Scalar) :
    (placedRow row firstColumn values).map PlacedValue.value = values := by
  rw [placedRow, List.map_map]
  exact List.zipIdx_map_fst firstColumn values

theorem labelledRow_eq (row firstColumn : Nat) (values : List Scalar) :
    labelledRow row firstColumn values =
      ((placedRow row firstColumn values).filter fun c =>
        c.value ≠ .null ∧ c.value ≠ .text "").map PlacedValue.label := by
  unfold labelledRow placedRow
  rw [List.filter_map, List.map_map, ← List.filterMap_eq_map, List.filterMap_filter]
  refine List.filterMap_congr fun (v, column) _ => ?_
  by_cases hblank : v = .null ∨ v = .text ""
  · rcases hblank with rfl | rfl <;> rfl
  · obtain ⟨hnull, hempty⟩ := not_or.mp hblank
    simp [Scalar.isBlank, hnull, hempty, PlacedValue.label]

namespace Rectangle.Fits

variable {r : Rectangle} {rows : List (List Scalar)}

theorem entry_eq (h : r.Fits rows) {i j : Nat} (hi : i < r.height) (hj : j < r.width) :
    entry rows i j = some ((rows[i]?.getD [])[j]?.getD .null) := by
  have hi : i < rows.length := h.height ▸ hi
  have hj : j < rows[i].length := by
    rw [h.width _ (List.getElem_mem hi)]
    exact hj
  simp [entry, hi, hj]

/-- An entry of the table lies in the rectangle. -/
theorem mem_placed (h : r.Fits rows) {c : PlacedValue} :
    c ∈ r.placed rows ↔ ∃ i j, entry rows i j = some c.value ∧ c.row = r.firstRow + i ∧
      c.column = r.firstColumn + j := by
  rw [Rectangle.mem_placed]
  constructor
  · rintro ⟨i, j, -, -, hentry⟩
    exact ⟨i, j, hentry⟩
  · rintro ⟨i, j, hentry, hplace⟩
    obtain ⟨row, hrow, hvalue⟩ := Option.bind_eq_some_iff.mp hentry
    obtain ⟨hi, rfl⟩ := List.getElem?_eq_some_iff.mp hrow
    obtain ⟨hj, -⟩ := List.getElem?_eq_some_iff.mp hvalue
    rw [h.width _ (List.getElem_mem hi)] at hj
    exact ⟨i, j, h.height ▸ hi, hj, hentry, hplace⟩

theorem placed_eq (h : r.Fits rows) :
    r.placed rows = (rows.zipIdx r.firstRow).flatMap fun (values, row) =>
      placedRow row r.firstColumn values := by
  rw [zipIdx_eq_map rows [], List.flatMap_map, h.height, Rectangle.placed]
  refine List.flatMap_congr fun i hi => ?_
  have hi : i < r.height := List.mem_range.mp hi
  have hwidth : (rows[i]?.getD []).length = r.width := by
    have hlt : i < rows.length := h.height ▸ hi
    rw [List.getElem?_eq_getElem hlt]
    exact h.width _ (List.getElem_mem hlt)
  show _ = placedRow (r.firstRow + i) r.firstColumn (rows[i]?.getD [])
  rw [placedRow, zipIdx_eq_map _ .null, List.map_map, hwidth, ← List.filterMap_eq_map]
  refine List.filterMap_congr fun j hj => ?_
  rw [h.entry_eq hi (List.mem_range.mp hj)]
  rfl

/-- Without their places, the values are those of the table. -/
theorem map_value_placed (h : r.Fits rows) :
    (r.placed rows).map PlacedValue.value = rows.flatten := by
  have hrows : rows.flatten = ((rows.zipIdx r.firstRow).map Prod.fst).flatten := by
    rw [List.zipIdx_map_fst]
  rw [h.placed_eq, List.map_flatMap, hrows, ← List.flatMap_def]
  exact List.flatMap_congr fun (values, row) _ => map_value_placedRow row r.firstColumn values

theorem map_value_filled (h : r.Fits rows) :
    (r.filled rows).map PlacedValue.value =
      rows.flatten.filter fun v => v ≠ .null ∧ v ≠ .text "" := by
  rw [← h.map_value_placed, List.filter_map]
  rfl

/-- The labels of a table are those of its filled places. -/
theorem labelled_eq (h : r.Fits rows) :
    labelled r.firstRow r.firstColumn rows = (r.filled rows).map PlacedValue.label := by
  rw [Rectangle.filled, h.placed_eq, List.filter_flatMap, List.map_flatMap, labelled]
  exact List.flatMap_congr fun (values, row) _ => labelledRow_eq row r.firstColumn values

end Rectangle.Fits

/-! ## Labels -/

/-- A text before its last marker and after it. -/
def splitAtLast (marker : Char) (text : String) : String × String :=
  (String.ofList (text.toList.rdropWhile (· ≠ marker)).dropLast,
    String.ofList (text.toList.rtakeWhile (· ≠ marker)))

/-- The last marker is the one after which there is none. -/
theorem splitAtLast_append {marker : Char} {before after : String} (h : marker ∉ after.toList) :
    splitAtLast marker (before ++ String.singleton marker ++ after) = (before, after) := by
  have hlist : (before ++ String.singleton marker ++ after).toList.reverse =
      after.toList.reverse ++ marker :: before.toList.reverse := by simp
  have hafter : ∀ c ∈ after.toList.reverse, decide (c ≠ marker) = true := fun c hc =>
    decide_eq_true fun heq => h (heq ▸ List.mem_reverse.mp hc)
  simp only [splitAtLast, List.rdropWhile, List.rtakeWhile, hlist,
    List.dropWhile_append_of_pos hafter, List.takeWhile_append_of_pos hafter]
  simp

theorem splitAtLast_label (c : PlacedValue) :
    splitAtLast '@' c.label = (c.value.display, cellName c.row c.column) := by
  refine splitAtLast_append fun hmarker => ?_
  have halphanum := isAlphanum_of_mem_cellName hmarker
  revert halphanum
  decide

/-- What is found in a label: the text of the value, and a reference of its place, which is read as
the place if both coordinates are in range. -/
structure Tells (label : String) (c : PlacedValue) : Prop where
  text : (splitAtLast '@' label).1 = c.value.display
  boolean : ∀ b, c.value = .boolean b →
    (splitAtLast '@' label).1 = if b then "TRUE" else "FALSE"
  reference : encodeAddress c.row c.column = .ok (some (splitAtLast '@' label).2)
  place : c.row ≤ maxIndex → c.column ≤ maxIndex →
    ∃ a, decodeAddress (splitAtLast '@' label).2 = some a ∧ a.row = c.row ∧ a.column = c.column

theorem tells_label {c : PlacedValue} (hrow : 1 ≤ c.row) (hcolumn : 1 ≤ c.column)
    (hshort : c.row < IntegerText.bound) : Tells c.label c := by
  constructor
  · rw [splitAtLast_label]
  · intro b hb
    rw [splitAtLast_label, hb]
    rfl
  · rw [splitAtLast_label]
    exact encodeAddress_eq_ok_some.mpr ⟨by omega, by omega, hshort, rfl⟩
  · intro hrowLe hcolumnLe
    rw [splitAtLast_label, decodeAddress_cellName c.row hcolumn, CellAddress.ofPair?,
      dif_pos (by omega)]
    exact ⟨_, rfl, rfl, rfl⟩

/-- Labels of different places have different references. -/
theorem nodup_references {cells : List PlacedValue} (h : cells.Pairwise PlacedValue.Before) :
    ((cells.map PlacedValue.label).map fun label => (splitAtLast '@' label).2).Nodup := by
  rw [List.map_map]
  refine List.pairwise_map.mpr (h.imp fun {a b} hbefore hsame => hbefore.ne ?_)
  have hsame : (splitAtLast '@' a.label).2 = (splitAtLast '@' b.label).2 := hsame
  rw [splitAtLast_label, splitAtLast_label] at hsame
  exact cellName_injective hsame

/-! ## The two ways of reading -/

namespace Workspace

/-- The table that a range is read as has the shape of the rectangle. -/
theorem fits_of_rangeOf {q : ReadRangeRequest} {book : StoredWorkbook} {rows : List (List Scalar)}
    (h : rangeOf q book = .ok rows) : q.rectangle.Fits rows := by
  obtain ⟨-, stored, sheet, -, -, rfl⟩ := rangeOf_eq_ok.mp h
  obtain ⟨hheight, hwidth, -⟩ := (Sheet.yields_passed sheet stored.results q.rectangle).padded
  exact ⟨hheight, hwidth⟩

/-- Whether references are wanted shows in the form of the answer only. -/
theorem ranged_modes (policy : Option PathPolicy) (files : FileSystem Content)
    (q : ReadRangeRequest) :
    (∃ e, ∀ b, ranged policy files { q with withReferences := b } = .error e) ∨
      q.rectangle.lastRow < IntegerText.bound ∧ ∃ rows, q.rectangle.Fits rows ∧
        ∀ b, ranged policy files { q with withReferences := b } =
          .ok ⟨q.sheet, q.rectangle.name, answerContent { q with withReferences := b } rows⟩ := by
  cases hfound : existing policy files q.path with
  | error e => exact .inl ⟨e, fun _ => by simp only [ranged, hfound]⟩
  | ok resolved =>
    by_cases hlast : q.rectangle.lastRow < IntegerText.bound
    · by_cases hsize : q.maxCells < q.rectangle.size
      · exact .inl ⟨.tooManyCells q.rectangle.name q.rectangle.size q.maxCells, fun b =>
          ranged_of_large (q := { q with withReferences := b }) hfound hlast hsize⟩
      · cases hopened : opened resolved (files.read resolved) with
        | error e =>
          refine .inl ⟨e, fun b => ?_⟩
          simp only [ranged, hfound, Rectangle.text_of_lt hlast, if_neg hsize, hopened]
        | ok book =>
          have hranged : ∀ b, ranged policy files { q with withReferences := b } =
              (rangeOf q book).map fun rows =>
                ⟨q.sheet, q.rectangle.name, answerContent { q with withReferences := b } rows⟩ := by
            intro b
            simp only [ranged, hfound, Rectangle.text_of_lt hlast, if_neg hsize, hopened]
            rfl
          cases hrows : rangeOf q book with
          | error e => exact .inl ⟨e, fun b => by rw [hranged, hrows]; rfl⟩
          | ok rows =>
            exact .inr ⟨hlast, rows, fits_of_rangeOf hrows, fun b => by rw [hranged, hrows]; rfl⟩
    · exact .inl ⟨.numeral .tooLong, fun b =>
        ranged_of_long (q := { q with withReferences := b }) hfound (Nat.le_of_not_lt hlast)⟩

/-- The two ways of reading a range agree. Both fail alike, and neither changes anything. Where one
gives a table, the other gives the labels of its values that are neither null nor the empty text, in
the order of the table: every such value has its label, no two labels have the same reference, and
a label that is cut at its last marker tells the text and the place of its value. A range within the
limits is read if its rows are readable. -/
theorem labels_tell_filled_cells (policy : Option PathPolicy) (q : ReadRangeRequest)
    (w : Workspace) :
    let read (withReferences : Bool) := result (readRange policy { q with withReferences }) w
    (∀ b, (read b).2 = w) ∧ (∀ e, (read true).1 = .error e ↔ (read false).1 = .error e) ∧
    (∀ answer, (read false).1 = .ok answer → ∃ rows, answer.content = .values rows ∧
      let filled := q.rectangle.filled rows
      let labels := filled.map PlacedValue.label
      (read true).1 = .ok { answer with content := .cells labels } ∧
      filled.map PlacedValue.value = (rows.flatten.filter fun v => v ≠ .null ∧ v ≠ .text "") ∧
      filled.Pairwise PlacedValue.Before ∧
      (∀ c, c ∈ filled ↔ c.value ≠ .null ∧ c.value ≠ .text "" ∧
        ∃ i j, entry rows i j = some c.value ∧ c.row = q.rectangle.firstRow + i ∧
          c.column = q.rectangle.firstColumn + j) ∧
      (labels.map fun label => (splitAtLast '@' label).2).Nodup ∧
      ∀ c ∈ filled, Tells c.label c) ∧
    (∀ resolved book stored sheet,
      (result (existingWorkbook policy q.path) w).1 = .ok resolved →
      q.WithinLimits → (result (openStored resolved) w).1 = .ok book →
      book.sheet q.sheet = .ok stored → stored.rowsThrough q.rectangle.lastRow = .ok sheet →
      ∃ answer, (read false).1 = .ok answer) := by
  intro read
  have hread : ∀ b, read b = (ranged policy w.files { q with withReferences := b }, w) :=
    fun b => result_readRange policy _ w
  simp only [hread, implies_true, true_and]
  refine ⟨?_, ?_, ?_⟩
  · intro e
    rcases ranged_modes policy w.files q with ⟨cause, h⟩ | ⟨-, rows, -, h⟩
    · rw [h true, h false]
    · rw [h true, h false]
      exact ⟨nofun, nofun⟩
  · intro answer hanswer
    rcases ranged_modes policy w.files q with ⟨cause, h⟩ | ⟨hlast, rows, hfits, h⟩
    · rw [h false] at hanswer
      cases hanswer
    · rw [h false] at hanswer
      cases hanswer
      refine ⟨rows, rfl, ?_, hfits.map_value_filled, Rectangle.filled_pairwise, ?_,
        nodup_references Rectangle.filled_pairwise, ?_⟩
      · rw [h true, ← hfits.labelled_eq]
        rfl
      · intro c
        rw [Rectangle.mem_filled, and_comm, and_assoc, hfits.mem_placed]
      · intro c hc
        obtain ⟨i, j, hi, -, -, hrow, hcolumn⟩ :=
          Rectangle.mem_placed.mp (Rectangle.mem_filled.mp hc).1
        have hfirstRow := q.rectangle.one_le_row
        have hfirstColumn := q.rectangle.one_le_column
        have hrowLe := q.rectangle.row_le
        rw [Rectangle.height] at hi
        exact tells_label (by omega) (by omega) (Nat.lt_of_le_of_lt (by omega) hlast)
  · intro resolved book stored sheet hfound hlimits hbook hstored hsheet
    rw [result_existingWorkbook] at hfound
    rw [result_openStored] at hbook
    have hfound : existing policy w.files q.path = .ok resolved := hfound
    have hbook : opened resolved (w.files.read resolved) = .ok book := hbook
    exact ⟨_, ranged_eq_ok.mpr ⟨⟨hlimits.size, hlimits.lastRow, hlimits.width⟩, resolved, book,
      stored, sheet, hfound, hbook, hstored, hsheet, rfl⟩⟩

/-- A workbook with a text that ends like a label, two values that are no texts, and an empty
text. -/
def markedWorkspace : Workspace :=
  let sheet := (((Sheet.empty.setCell 2 2 ⟨.text, .text "a@B7", .default⟩).setCell 2 3
    ⟨.boolean, .boolean false, .default⟩).setCell 3 2 ⟨.number, .integer 0, .default⟩).setCell 3 3
    ⟨.inlineText, .text "", .default⟩
  .ofFiles ⟨[(["book.xlsx"], .file (.workbook ⟨[⟨"Sheet1", sheet, .none, none⟩], none⟩))]⟩ .absent

/-- The request for the four cells of this workbook, as a table. -/
def markedRequest : ReadRangeRequest :=
  ⟨Path.ofText "/book.xlsx", "Sheet1",
    ⟨2, 2, 3, 3, Nat.le_succ 1, Nat.le_succ 1, Nat.le_succ 2, Nat.le_succ 2⟩, false, 4⟩

/-- The marker in a text does not hide the reference, and neither zero nor a false value is left
out. -/
theorem marked_text_keeps_its_label :
    (result (readRange none { markedRequest with withReferences := true }) markedWorkspace).1 =
        .ok ⟨"Sheet1", "B2:C3", .cells ["a@B7@B2", "FALSE@C2", "0@B3"]⟩ ∧
      Tells "a@B7@B2" ⟨2, 2, .text "a@B7"⟩ := by
  have hplain : (result (readRange none { markedRequest with withReferences := false })
      markedWorkspace).1 = .ok ⟨"Sheet1", "B2:C3",
        .values [[.text "a@B7", .boolean false], [.integer 0, .text ""]]⟩ := by decide +kernel
  obtain ⟨-, -, hmodes, -⟩ := labels_tell_filled_cells none markedRequest markedWorkspace
  obtain ⟨rows, hrows, hlabels, -, -, -, -, htells⟩ := hmodes _ hplain
  cases hrows
  have hfirst : (⟨2, 2, .text "a@B7"⟩ : PlacedValue) ∈ markedRequest.rectangle.filled
      [[.text "a@B7", .boolean false], [.integer 0, .text ""]] := by decide +kernel
  have htexts : (markedRequest.rectangle.filled
      [[.text "a@B7", .boolean false], [.integer 0, .text ""]]).map PlacedValue.label =
        ["a@B7@B2", "FALSE@C2", "0@B3"] := by decide +kernel
  rw [htexts] at hlabels
  have hlabel : PlacedValue.label ⟨2, 2, .text "a@B7"⟩ = "a@B7@B2" := by decide +kernel
  exact ⟨hlabels, hlabel ▸ htells _ hfirst⟩

end Workspace

end WorkbookTools
