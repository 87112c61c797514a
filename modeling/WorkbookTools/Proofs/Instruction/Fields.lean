import WorkbookTools.Instruction
import WorkbookTools.Proofs.Instruction.Anchors

/-!
# The anchor rules of instructions

The rules say where each field of an instruction lies without reading it character by character.
Everything but the content is found in the text after the first address anchor: a field begins after
its own anchor and ends before the nearest anchor of a later field to its right.

Main statement: `parse_eq_anchorRules`, the result of reading an instruction is the one that the
rules give, for every text.
-/

namespace WorkbookTools.Instruction

/-! ## The rules -/

/-- The text after the first address anchor, if there is one. -/
def afterAddressAnchor? (s : List Char) : Option (List Char) :=
  (s.idxOf? '@').map fun p => s.drop (p + 1)

/-- The text between the first two quotes, if there are two. -/
def quoted? (s : List Char) : Option (List Char) := do
  let first ← s.idxOf? '\''
  let after := s.drop (first + 1)
  let second ← after.idxOf? '\''
  pure (after.take second)

/-- The least of some positions and `stop`. -/
def nearest (positions : List Nat) (stop : Nat) : Nat := positions.foldl min stop

def TailField.later : TailField → List TailField
  | style => [foreground, background]
  | foreground => [background]
  | background => []

/-- The first position of a field's anchor. -/
def anchorIn? (t : List Char) (k : TailField) : Option Nat := t.idxOf? k.anchor

/-- The address field: up to the nearest of the anchors. -/
def addressField (t : List Char) : List Char :=
  t.take (nearest ([TailField.style, .foreground, .background].filterMap (anchorIn? t)) t.length)

/-- The text of another field: from its anchor up to the nearest later anchor to its right. -/
def tailField? (t : List Char) (k : TailField) : Option (List Char) :=
  (anchorIn? t k).map fun p =>
    (t.take (nearest ((k.later.filterMap (anchorIn? t)).filter (p < ·)) t.length)).drop (p + 1)

/-- The fields that the rules give. -/
def ruledFields? (s : List Char) : Option Fields :=
  (afterAddressAnchor? s).map fun t =>
    { content := quoted? s
      address := addressField t
      style := tailField? t .style
      foreground := tailField? t .foreground
      background := tailField? t .background }

/-! ## The fields that are read -/

namespace Anchors

/-- The end of a field, as it is searched among the later anchors. -/
theorem foldl_stop (p : Nat) (positions : List Nat) (stop : Nat) :
    positions.foldl (fun stop q => if p < q ∧ q < stop then q else stop) stop =
      nearest (positions.filter (p < ·)) stop := by
  induction positions generalizing stop with
  | nil => rfl
  | cons q positions ih =>
    rw [List.foldl_cons, ih, List.filter_cons]
    by_cases hp : p < q
    · have hstop : (if p < q ∧ q < stop then q else stop) = min stop q := by
        rw [Nat.min_def]
        split <;> split <;> omega
      rw [hstop, if_pos (decide_eq_true hp)]
      rfl
    · simp [hp]

theorem nearest_map_add (n : Nat) (positions : List Nat) (stop : Nat) :
    nearest (positions.map (n + ·)) (n + stop) = n + nearest positions stop := by
  induction positions generalizing stop with
  | nil => rfl
  | cons q positions ih =>
    have hmin : min (n + stop) (n + q) = n + min stop q := by omega
    simp only [nearest, List.map_cons, List.foldl_cons] at ih ⊢
    rw [hmin, ih]

theorem slice_append (u t : List Char) (i j : Nat) :
    slice (u ++ t) (u.length + i) (u.length + j) = slice t i j := by
  simp [slice, List.take_append, List.drop_append]

theorem filterMap_map_add (n : Nat) (positions : List (Option Nat)) :
    (positions.map (Option.map (n + ·))).filterMap id = (positions.filterMap id).map (n + ·) := by
  rw [List.filterMap_map, List.map_filterMap]
  rfl

theorem field_append (u t : List Char) (p : Nat) (later : List (Option Nat)) :
    field (u ++ t) (u.length + p) (later.map (Option.map (u.length + ·))) =
      slice t (p + 1) (nearest ((later.filterMap id).filter (p < ·)) t.length) := by
  have hpositions : (later.map (Option.map (u.length + ·))).filterMap id =
      (later.filterMap id).map (u.length + ·) := filterMap_map_add u.length later
  have hlater : ((later.filterMap id).map (u.length + ·)).filter (u.length + p < ·) =
      ((later.filterMap id).filter (p < ·)).map (u.length + ·) := by
    rw [List.filter_map]
    congr 2
    funext q
    simp
  rw [field, hpositions, foldl_stop, hlater, List.length_append, nearest_map_add,
    Nat.add_assoc, slice_append]

/-- The text between the anchor at the end of `u` and the nearest of the later anchors. -/
theorem field_append_first (u t : List Char) (c : Char) (later : List (Option Nat)) :
    field (u ++ c :: t) u.length (later.map (Option.map (u.length + 1 + ·))) =
      t.take (nearest (later.filterMap id) t.length) := by
  have hpositions : (later.map (Option.map (u.length + 1 + ·))).filterMap id =
      (later.filterMap id).map (u.length + 1 + ·) := filterMap_map_add (u.length + 1) later
  have hall : ((later.filterMap id).map (u.length + 1 + ·)).filter (u.length < ·) =
      (later.filterMap id).map (u.length + 1 + ·) := by
    rw [List.filter_eq_self]
    simp
    omega
  have hlength : (u ++ c :: t).length = u.length + 1 + t.length := by
    simp only [List.length_append, List.length_cons]
    omega
  have hsplit : u ++ c :: t = (u ++ [c]) ++ t := by simp
  have hslice := slice_append (u ++ [c]) t 0 (nearest (later.filterMap id) t.length)
  rw [List.length_append, List.length_singleton, Nat.add_zero] at hslice
  rw [field, hpositions, foldl_stop, hall, hlength, nearest_map_add, hsplit, hslice]
  rfl

/-- The content that is read lies between the first two quotes. -/
theorem content_scan_eq_quoted (s : List Char) :
    (match (scan s).content with
      | .closed start stop => some (slice s start stop)
      | _ => .none) = quoted? s := by
  rw [content_scan, quoted?]
  cases s.idxOf? '\'' with
  | none => rfl
  | some k =>
    cases hsecond : (s.drop (k + 1)).idxOf? '\'' with
    | none => simp [hsecond]
    | some m =>
      simp only [Option.bind_eq_bind, Option.bind_some, hsecond, slice]
      rw [List.drop_take, Nat.add_sub_cancel_left]
      rfl

end Anchors

theorem afterAddressAnchor?_eq_none {s : List Char} :
    afterAddressAnchor? s = none ↔ '@' ∉ s := by
  rw [afterAddressAnchor?, Option.map_eq_none_iff, List.idxOf?_eq_none_iff]

theorem afterAddressAnchor?_append {u : List Char} (hu : '@' ∉ u) (t : List Char) :
    afterAddressAnchor? (u ++ '@' :: t) = some t := by
  have haddress : (u ++ '@' :: t).idxOf? '@' = some u.length := by
    rw [← Anchors.address_scan, (Anchors.scan_of_split hu .style).1]
  have hdrop : (u ++ '@' :: t).drop (u.length + 1) = t := by
    rw [List.drop_append]
    simp
  rw [afterAddressAnchor?, haddress, Option.map_some, hdrop]

theorem tailField?_append (u t : List Char) (k : TailField) :
    ((anchorIn? t k).map (u.length + 1 + ·)).map (fun p => Anchors.field (u ++ '@' :: t) p
        ((k.later.map (anchorIn? t)).map (Option.map (u.length + 1 + ·)))) = tailField? t k := by
  have hsplit : u ++ '@' :: t = (u ++ ['@']) ++ t := by simp
  have hlength : u.length + 1 = (u ++ ['@']).length := by simp
  have hlater : (k.later.map (anchorIn? t)).filterMap id = k.later.filterMap (anchorIn? t) := by
    rw [List.filterMap_map, Function.id_comp]
  rw [tailField?, Option.map_map, hsplit, hlength]
  congr 1
  funext p
  rw [Function.comp, Anchors.field_append, hlater, Anchors.slice]

/-- The fields that one pass over a text finds are the fields that the rules give. -/
theorem fields?_eq_ruledFields? (s : List Char) : fields? s = ruledFields? s := by
  by_cases hat : '@' ∈ s
  · obtain ⟨u, t, rfl, hu⟩ := List.eq_append_cons_of_mem hat
    have haddress := (Anchors.scan_of_split (t := t) hu .style).1
    have hstyle := (Anchors.scan_of_split (t := t) hu .style).2
    have hforeground := (Anchors.scan_of_split (t := t) hu .foreground).2
    have hbackground := (Anchors.scan_of_split (t := t) hu .background).2
    simp only [Anchors.position] at hstyle hforeground hbackground
    rw [ruledFields?, afterAddressAnchor?_append hu]
    simp only [fields?, haddress, Option.map_some, hstyle, hforeground, hbackground]
    congr 2
    · exact Anchors.content_scan_eq_quoted _
    · exact Anchors.field_append_first u t '@'
        [anchorIn? t .style, anchorIn? t .foreground, anchorIn? t .background]
    · exact tailField?_append u t .style
    · exact tailField?_append u t .foreground
    · exact tailField?_append u t .background
  · have haddress : s.idxOf? '@' = none := List.idxOf?_eq_none_iff.mpr hat
    rw [ruledFields?, afterAddressAnchor?_eq_none.mpr hat]
    simp [fields?, Anchors.address_scan, haddress]

/-! ## The result -/

/-- A text without address anchor is rejected as such. In any other text let `t` be what stands
after the first address anchor: the instruction is rejected with the address field of `t` if that
field is no address, and is read as the edit that the fields give otherwise. -/
theorem parse_eq_anchorRules (index : Nat) (s : String) :
    (parse index s = .error ⟨index, s, .missingAddress⟩ ↔ '@' ∉ s.toList) ∧
      ∀ u t : List Char, s.toList = u ++ '@' :: t → '@' ∉ u →
        match decodeAddress (String.ofList (addressField t)) with
        | none =>
          parse index s = .error ⟨index, s, .invalidAddress (String.ofList (addressField t))⟩
        | some address =>
          (1 ≤ address.row ∧ address.row ≤ maxIndex) ∧
            (1 ≤ address.column ∧ address.column ≤ maxIndex) ∧
            parse index s = .ok
              { index, address
                content := (quoted? s.toList).map String.ofList
                style := StyleRequest.ofTokens ((tailField? t .style).getD [])
                foreground := (colorText? (tailField? t .foreground)).map Color.ofText
                background := (colorText? (tailField? t .background)).map Color.ofText } := by
  have hfound : ∀ u t : List Char, s.toList = u ++ '@' :: t → '@' ∉ u →
      fields? s.toList = some
        { content := quoted? s.toList
          address := addressField t
          style := tailField? t .style
          foreground := tailField? t .foreground
          background := tailField? t .background } := by
    intro u t hs hu
    rw [fields?_eq_ruledFields?, ruledFields?, hs, afterAddressAnchor?_append hu, Option.map_some]
  constructor
  · constructor
    · intro hmissing hat
      obtain ⟨u, t, hs, hu⟩ := List.eq_append_cons_of_mem hat
      rw [parse, hfound u t hs hu] at hmissing
      cases haddress : decodeAddress (String.ofList (addressField t)) <;>
        simp [haddress] at hmissing
    · intro hat
      rw [parse, fields?_eq_ruledFields?, ruledFields?, afterAddressAnchor?_eq_none.mpr hat,
        Option.map_none]
  · intro u t hs hu
    cases haddress : decodeAddress (String.ofList (addressField t)) with
    | none => simp [parse, hfound u t hs hu, haddress]
    | some address =>
      refine ⟨⟨address.one_le_row, address.row_le⟩, ⟨address.one_le_column, address.column_le⟩, ?_⟩
      simp [parse, hfound u t hs hu, haddress]

/-- Anchors out of order: the background field comes first and runs to the end. -/
example : ruledFields? "@A1%0#B$F".toList =
    some ⟨none, "A1".toList, some "B".toList, some "F".toList, some "0#B$F".toList⟩ := by
  decide

end WorkbookTools.Instruction
