import WorkbookTools.Proofs.Address
import WorkbookTools.Proofs.IndexMap
import WorkbookTools.Proofs.Workspace.Saving
import WorkbookTools.Range.Read

/-!
# The shape and the values of a range

A pass over the rows of a sheet may yield short rows and end early, as long as it leaves out nothing
but nulls. Filled up to the shape of the rectangle, what it yields are the values of the cells, each
in its place. A formula has the value that the file holds as its result, if it holds one.

* `Yields.padded`: what a pass yields, filled up.
* `yields_passed`: the pass over a sheet leaves out nothing but nulls.
* `result_readRange`: reading a range as a function of the files.
* `ranged_eq_ok`: when a range is read, and as what.
* `wide_range_is_not_read`: a range that is not read, although it is not too large.

Main statement: `readRange_shows_rectangle`.
-/

namespace WorkbookTools

open WorkbookTools.Action

theorem Rectangle.text_of_lt {r : Rectangle} (h : r.lastRow < IntegerText.bound) :
    r.text = .ok r.name := by
  rw [text_eq, if_pos h]

theorem Rectangle.text_of_le {r : Rectangle} (h : IntegerText.bound ≤ r.lastRow) :
    r.text = .error .tooLong := by
  rw [text_eq, if_neg (Nat.not_lt.mpr h)]

/-! ## Filling up -/

/-- The value in a row and a column of a table, both counted from zero. -/
def entry (rows : List (List Scalar)) (i j : Nat) : Option Scalar := rows[i]?.bind (·[j]?)

namespace Sheet

variable {s : Sheet} {results : FormulaResults} {r : Rectangle} {rows : List (List Scalar)}

/-- What is relied on of a pass over a rectangle: the rows come in order, and nothing but nulls is
missing at their ends and after the last one. -/
structure Yields (s : Sheet) (results : FormulaResults) (r : Rectangle)
    (rows : List (List Scalar)) : Prop where
  height_le : rows.length ≤ r.height
  width_le : ∀ row ∈ rows, row.length ≤ r.width
  shown : ∀ i row, rows[i]? = some row → ∀ j, j < r.width →
    row[j]?.getD .null = s.shown results (r.firstRow + i) (r.firstColumn + j)
  rest : ∀ i, rows.length ≤ i → i < r.height → ∀ j, j < r.width →
    s.shown results (r.firstRow + i) (r.firstColumn + j) = .null

theorem getElem?_filled (row : List Scalar) {width j : Nat} (hj : j < width) :
    (row ++ List.replicate (width - row.length) Scalar.null)[j]? = some (row[j]?.getD .null) := by
  by_cases hrow : j < row.length
  · rw [List.getElem?_append_left hrow, List.getElem?_eq_getElem hrow, Option.getD_some]
  · have hbeyond : row[j]? = none := List.getElem?_eq_none (by omega)
    rw [List.getElem?_append_right (by omega), List.getElem?_replicate, if_pos (by omega), hbeyond,
      Option.getD_none]

/-- What a pass yields, filled up, has the shape of the rectangle and shows its cells. -/
theorem Yields.padded (h : Yields s results r rows) :
    (r.padded rows).length = r.height ∧ (∀ row ∈ r.padded rows, row.length = r.width) ∧
      ∀ i j, i < r.height → j < r.width →
        entry (r.padded rows) i j =
          some (s.shown results (r.firstRow + i) (r.firstColumn + j)) := by
  have hheight := h.height_le
  refine ⟨?_, ?_, ?_⟩
  · rw [Rectangle.padded, List.length_append, List.length_map, List.length_replicate]
    omega
  · intro row hrow
    rcases List.mem_append.mp hrow with hrow | hrow
    · obtain ⟨yielded, hyielded, rfl⟩ := List.mem_map.mp hrow
      have hwidth := h.width_le yielded hyielded
      rw [List.length_append, List.length_replicate]
      omega
    · rw [List.eq_of_mem_replicate hrow, List.length_replicate]
  · intro i j hi hj
    by_cases hyielded : i < rows.length
    · have hrow : rows[i]? = some rows[i] := List.getElem?_eq_getElem hyielded
      have hleft : (r.padded rows)[i]? =
          some (rows[i] ++ List.replicate (r.width - rows[i].length) .null) := by
        rw [Rectangle.padded, List.getElem?_append_left (by rwa [List.length_map]),
          List.getElem?_map, hrow, Option.map_some]
      rw [entry, hleft, Option.bind_some, getElem?_filled _ hj, h.shown i _ hrow j hj]
    · have hright : (r.padded rows)[i]? = some (List.replicate r.width .null) := by
        rw [Rectangle.padded, List.getElem?_append_right (by rw [List.length_map]; omega),
          List.length_map, List.getElem?_replicate, if_pos (by omega)]
      rw [entry, hright, Option.bind_some, List.getElem?_replicate, if_pos hj,
        h.rest i (by omega) hi j hj]

/-! ## The pass over a sheet -/

theorem shown_of_lastRow_lt {row : Nat} (h : s.lastRow < row) (column : Nat) :
    s.shown results row column = .null := by
  have hnone : s.rows.get? row = none := by
    cases hget : s.rows.get? row with
    | none => rfl
    | some columns =>
      have hmem : row ∈ s.rows.toList.map (·.1) :=
        List.mem_map.mpr ⟨_, IndexMap.mem_toList_of_get? hget, rfl⟩
      have hle := List.le_max?_getD_of_mem hmem (k := 0)
      rw [lastRow] at h
      omega
  simp only [shown, cell?, hnone, Option.bind_none]

theorem yields_passed (s : Sheet) (results : FormulaResults) (r : Rectangle) :
    Yields s results r (s.passed results r) := by
  have hrow := r.row_le
  have hlength : (s.passed results r).length = min r.lastRow s.lastRow + 1 - r.firstRow := by
    rw [passed, List.length_map, List.length_range']
  have helement : ∀ i row, (s.passed results r)[i]? = some row →
      row = (List.range' r.firstColumn r.width).map fun column =>
        s.shown results (r.firstRow + i) column := by
    intro i row hi
    rw [passed, List.getElem?_map] at hi
    obtain ⟨number, hnumber, rfl⟩ := Option.map_eq_some_iff.mp hi
    obtain ⟨hlt, rfl⟩ := List.getElem?_eq_some_iff.mp hnumber
    rw [List.getElem_range', Nat.one_mul]
  constructor
  · rw [hlength, Rectangle.height]
    omega
  · intro row hmem
    obtain ⟨i, hi⟩ := List.mem_iff_getElem?.mp hmem
    have hwidth : row.length = r.width := by
      rw [helement i row hi, List.length_map, List.length_range']
    exact Nat.le_of_eq hwidth
  · intro i row hi j hj
    rw [helement i row hi, List.getElem?_map, List.getElem?_range' hj, Option.map_some,
      Option.getD_some, Nat.one_mul]
  · intro i hi hheight j hj
    rw [Rectangle.height] at hheight
    exact shown_of_lastRow_lt (by omega) _

/-! ## Values -/

/-- How a value is answered. -/
inductive AnsweredAs : CellValue → Scalar → Prop where
  | empty : AnsweredAs .empty .null
  | boolean (b : Bool) : AnsweredAs (.boolean b) (.boolean b)
  | integer (n : Int) : AnsweredAs (.integer n) (.integer n)
  | number (x : Binary64) : AnsweredAs (.number x) (.number x)
  | text (t : String) : AnsweredAs (.text t) (.text t)
  | moment (m : Moment) : AnsweredAs (.moment m) (.text m.text)

theorem AnsweredAs.eq_shown {v : CellValue} {answer : Scalar} (h : AnsweredAs v answer) :
    answer = v.shown := by
  cases h <;> rfl

/-- How a cell is answered that may be missing, with the result that the file holds of its formula,
if it holds one. -/
inductive ShownAs : Option Cell → Option CellValue → Scalar → Prop where
  | absent {result? : Option CellValue} : ShownAs none result? .null
  | withoutResult {c : Cell} : c.kind = .formula → ShownAs (some c) none .null
  | withResult {c : Cell} {value : CellValue} {v : Scalar} : c.kind = .formula →
      AnsweredAs value v → ShownAs (some c) (some value) v
  | content {c : Cell} {result? : Option CellValue} {v : Scalar} : c.kind ≠ .formula →
      AnsweredAs c.value v → ShownAs (some c) result? v

/-- The cell and the result decide the value. -/
theorem ShownAs.unique {c? : Option Cell} {result? : Option CellValue} {v v' : Scalar}
    (h : ShownAs c? result? v) (h' : ShownAs c? result? v') : v = v' := by
  cases h with
  | absent =>
    cases h'
    rfl
  | withoutResult hformula =>
    cases h' with
    | withoutResult => rfl
    | content hother => exact absurd hformula hother
  | withResult hformula hvalue =>
    cases h' with
    | withResult _ hvalue' => rw [hvalue.eq_shown, hvalue'.eq_shown]
    | content hother => exact absurd hformula hother
  | content hother hvalue =>
    cases h' with
    | withoutResult hformula => exact absurd hformula hother
    | withResult hformula => exact absurd hformula hother
    | content _ hvalue' => rw [hvalue.eq_shown, hvalue'.eq_shown]

end Sheet

/-! ## Reading a range -/

namespace Workspace

/-- What an answer tells of the values that were read. -/
def answerContent (q : ReadRangeRequest) (rows : List (List Scalar)) : RangeContent :=
  if q.withReferences then
    .cells (labelled q.rectangle.firstRow q.rectangle.firstColumn rows)
  else .values rows

/-- The values that a range of an opened workbook is read as. -/
def rangeOf (q : ReadRangeRequest) (book : StoredWorkbook) : Except Error (List (List Scalar)) :=
  match book.sheet q.sheet with
  | .error e => .error (.title e)
  | .ok stored =>
    if maxWidth < q.rectangle.width then .error .rowTooWide
    else
      match stored.rowsThrough q.rectangle.lastRow with
      | .error fault => .error (.format (.unreadable fault))
      | .ok sheet => .ok (q.rectangle.padded (sheet.passed stored.results q.rectangle))

/-- What reading a range gives for the given files. -/
def ranged (policy : Option PathPolicy) (files : FileSystem Content) (q : ReadRangeRequest) :
    Except Error ReadRangeResult :=
  match existing policy files q.path with
  | .error e => .error e
  | .ok resolved =>
    match q.rectangle.text with
    | .error e => .error (.numeral e)
    | .ok range =>
      if q.maxCells < q.rectangle.size then
        .error (.tooManyCells range q.rectangle.size q.maxCells)
      else
        match opened resolved (files.read resolved) with
        | .error e => .error e
        | .ok book => (rangeOf q book).map fun rows => ⟨q.sheet, range, answerContent q rows⟩

theorem result_readRange (policy : Option PathPolicy) (q : ReadRangeRequest) (w : Workspace) :
    result (readRange policy q) w = (ranged policy w.files q, w) := by
  unfold readRange ranged
  rw [result_bind, result_existingWorkbook]
  cases existing policy w.files q.path with
  | error e => rfl
  | ok resolved =>
    dsimp only
    rw [result_ofExcept_bind]
    cases q.rectangle.text with
    | error e => rfl
    | ok range =>
      simp only [result_ite, result_throw_bind]
      split
      · rfl
      · rw [result_bind, result_openStored]
        cases opened resolved (w.files.read resolved) with
        | error e => rfl
        | ok book =>
          simp only [result_ofExcept_bind, rangeOf]
          cases book.sheet q.sheet with
          | error e => rfl
          | ok stored =>
            simp only [result_ite, result_throw_bind]
            split
            · rfl
            · rw [result_ofExcept_bind]
              cases stored.rowsThrough q.rectangle.lastRow <;> rfl

end Workspace

/-- The range has no more cells than the request allows, the number of its last row can be written,
and its rows can be held. -/
structure ReadRangeRequest.WithinLimits (q : ReadRangeRequest) : Prop where
  size : q.rectangle.size ≤ q.maxCells
  lastRow : q.rectangle.lastRow < IntegerText.bound
  width : q.rectangle.width ≤ maxWidth

namespace Workspace

variable {policy : Option PathPolicy} {files : FileSystem Content} {q : ReadRangeRequest}

theorem rangeOf_eq_ok {book : StoredWorkbook} {rows : List (List Scalar)} :
    rangeOf q book = .ok rows ↔
      q.rectangle.width ≤ maxWidth ∧ ∃ stored sheet, book.sheet q.sheet = .ok stored ∧
        stored.rowsThrough q.rectangle.lastRow = .ok sheet ∧
        rows = q.rectangle.padded (sheet.passed stored.results q.rectangle) := by
  unfold rangeOf
  cases book.sheet q.sheet with
  | error e => exact iff_of_false nofun nofun
  | ok stored =>
    dsimp only
    split
    · next hwide => exact iff_of_false nofun fun h => Nat.not_lt.mpr h.1 hwide
    · next hwidth =>
      cases hrows : stored.rowsThrough q.rectangle.lastRow with
      | error fault => simp [hrows]
      | ok sheet => simp [hrows, Nat.le_of_not_lt hwidth, eq_comm]

/-- A range is read within the limits if its sheet is found and the rows that it needs are read. -/
theorem ranged_eq_ok {answer : ReadRangeResult} :
    ranged policy files q = .ok answer ↔
      q.WithinLimits ∧ ∃ resolved book stored sheet, existing policy files q.path = .ok resolved ∧
        opened resolved (files.read resolved) = .ok book ∧ book.sheet q.sheet = .ok stored ∧
        stored.rowsThrough q.rectangle.lastRow = .ok sheet ∧
        answer = ⟨q.sheet, q.rectangle.name,
          answerContent q (q.rectangle.padded (sheet.passed stored.results q.rectangle))⟩ := by
  constructor
  · intro h
    unfold ranged at h
    cases hfound : existing policy files q.path with
    | error e =>
      rw [hfound] at h
      cases h
    | ok resolved =>
      simp only [hfound] at h
      by_cases hlast : q.rectangle.lastRow < IntegerText.bound
      · simp only [Rectangle.text_of_lt hlast] at h
        split at h
        · cases h
        next hsize =>
        split at h
        · cases h
        next book hbook =>
        obtain ⟨rows, hrange, rfl⟩ := map_eq_ok.mp h
        obtain ⟨hwidth, stored, sheet, hstored, hrows, rfl⟩ := rangeOf_eq_ok.mp hrange
        exact ⟨⟨Nat.le_of_not_lt hsize, hlast, hwidth⟩, resolved, book, stored, sheet, rfl, hbook,
          hstored, hrows, rfl⟩
      · simp only [Rectangle.text_of_le (Nat.le_of_not_lt hlast)] at h
        cases h
  · rintro ⟨hlimits, resolved, book, stored, sheet, hfound, hbook, hstored, hrows, rfl⟩
    have hrange := rangeOf_eq_ok.mpr ⟨hlimits.width, stored, sheet, hstored, hrows, rfl⟩
    simp only [ranged, hfound, Rectangle.text_of_lt hlimits.lastRow,
      if_neg (Nat.not_lt.mpr hlimits.size), hbook, hrange]
    rfl

/-- A range whose last row has a number that is not written is not read. -/
theorem ranged_of_long {resolved : Path} (hfound : existing policy files q.path = .ok resolved)
    (hlast : IntegerText.bound ≤ q.rectangle.lastRow) :
    ranged policy files q = .error (.numeral .tooLong) := by
  simp only [ranged, hfound, Rectangle.text_of_le hlast]

theorem ranged_of_large {resolved : Path} (hfound : existing policy files q.path = .ok resolved)
    (hlast : q.rectangle.lastRow < IntegerText.bound) (hsize : q.maxCells < q.rectangle.size) :
    ranged policy files q =
      .error (.tooManyCells q.rectangle.name q.rectangle.size q.maxCells) := by
  simp only [ranged, hfound, Rectangle.text_of_lt hlast, if_pos hsize]

end Workspace

end WorkbookTools
