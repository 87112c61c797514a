import WorkbookTools.Proofs.Address
import WorkbookTools.Proofs.Color
import WorkbookTools.Proofs.Instruction.Fields
import WorkbookTools.Proofs.Style

/-!
# Edits spelled as instructions

Every edit can be spelled: its content between quotes, the reference of its cell, a token for each
attribute of its style and its colours in hexadecimal digits, each behind its anchor. What has no
value is left out. The content may hold any character but a quote and the address anchor.

* `addressField_append`, `tailField?_append_anchor`: where the fields of a joined text lie.

Main statement: `parse_spelled`.
-/

namespace WorkbookTools.Instruction

/-! ## Fields of joined texts -/

/-- A position that no other precedes, and that is one of them or the end, is the nearest. -/
theorem nearest_eq {positions : List Nat} {stop m : Nat} (hle : ∀ p ∈ positions, m ≤ p)
    (hstop : m ≤ stop) (hmem : m ∈ positions ∨ m = stop) : nearest positions stop = m := by
  induction positions generalizing stop with
  | nil =>
    rcases hmem with hmem | rfl
    · cases hmem
    · rfl
  | cons p rest ih =>
    have hp := hle p List.mem_cons_self
    have hrest : ∀ q ∈ rest, m ≤ q := fun q hq => hle q (List.mem_cons_of_mem p hq)
    apply ih hrest (by omega)
    rcases hmem with hmem | rfl
    · rcases List.mem_cons.mp hmem with rfl | hmem
      · exact .inr (by omega)
      · exact .inl hmem
    · exact .inr (by omega)

theorem idxOf?_append {u : List Char} {c : Char} (hu : c ∉ u) (v : List Char) :
    (u ++ v).idxOf? c = (v.idxOf? c).map (u.length + ·) := by
  induction u with
  | nil => simp
  | cons d u ih =>
    obtain ⟨hd, hu⟩ := not_or.mp (mt List.mem_cons.mpr hu)
    have hne : (d == c) = false := by simpa using Ne.symm hd
    rw [List.cons_append, List.idxOf?_cons, hne, ih hu]
    cases v.idxOf? c with
    | none => rfl
    | some p => simp [Nat.add_right_comm]

/-- The text ends, or goes on with the anchor of one of some fields. -/
def EndsField (fields : List TailField) (rest : List Char) : Prop :=
  rest = [] ∨ ∃ k ∈ fields, ∃ tail, rest = k.anchor :: tail

/-- The nearest anchor of some fields behind a text without their anchors is the one that ends it. -/
theorem nearest_anchors {fields : List TailField} {body rest : List Char}
    (hbody : ∀ k ∈ fields, k.anchor ∉ body) (hrest : EndsField fields rest) :
    nearest (fields.filterMap (anchorIn? (body ++ rest))) (body ++ rest).length = body.length := by
  have hposition : ∀ k ∈ fields,
      anchorIn? (body ++ rest) k = (rest.idxOf? k.anchor).map (body.length + ·) :=
    fun k hk => idxOf?_append (hbody k hk) rest
  apply nearest_eq
  · intro p hp
    obtain ⟨k, hk, hp⟩ := List.mem_filterMap.mp hp
    rw [hposition k hk] at hp
    obtain ⟨q, -, rfl⟩ := Option.map_eq_some_iff.mp hp
    omega
  · rw [List.length_append]
    omega
  · rcases hrest with rfl | ⟨k, hk, tail, rfl⟩
    · exact .inr (by simp)
    · refine .inl (List.mem_filterMap.mpr ⟨k, hk, ?_⟩)
      rw [hposition k hk, List.idxOf?_cons]
      simp

def allTailFields : List TailField := [.style, .foreground, .background]

/-- The address field ends before the first anchor. -/
theorem addressField_append {body rest : List Char} (hbody : ∀ k ∈ allTailFields, k.anchor ∉ body)
    (hrest : EndsField allTailFields rest) : addressField (body ++ rest) = body := by
  have hnearest := nearest_anchors hbody hrest
  rw [allTailFields] at hnearest
  rw [addressField, hnearest, List.take_left]

theorem anchor_ne_of_mem_later {k l : TailField} (hl : l ∈ k.later) : l.anchor ≠ k.anchor := by
  cases k <;> cases l <;> first | decide | simp [TailField.later] at hl

/-- A field goes from its anchor to the anchor of a later field. -/
theorem tailField?_append_anchor {k : TailField} {before body rest : List Char}
    (hanchor : k.anchor ∉ before) (hbefore : ∀ l ∈ k.later, l.anchor ∉ before)
    (hbody : ∀ l ∈ k.later, l.anchor ∉ body) (hrest : EndsField k.later rest) :
    tailField? (before ++ k.anchor :: (body ++ rest)) k = some body := by
  have hsplit : before ++ k.anchor :: (body ++ rest) = (before ++ [k.anchor]) ++ (body ++ rest) := by
    simp
  have hlength : (before ++ [k.anchor]).length = before.length + 1 := by simp
  have hfirst : anchorIn? (before ++ k.anchor :: (body ++ rest)) k = some before.length := by
    rw [anchorIn?, idxOf?_append hanchor, List.idxOf?_cons]
    simp
  have hpositions : k.later.filterMap (anchorIn? (before ++ k.anchor :: (body ++ rest))) =
      (k.later.filterMap (anchorIn? (body ++ rest))).map (before.length + 1 + ·) := by
    rw [List.map_filterMap]
    apply List.filterMap_congr
    intro l hl
    have hnone : l.anchor ∉ before ++ [k.anchor] := by
      rw [List.mem_append, List.mem_singleton]
      exact not_or.mpr ⟨hbefore l hl, anchor_ne_of_mem_later hl⟩
    rw [hsplit, anchorIn?, idxOf?_append hnone, hlength]
    rfl
  have hright : ∀ p ∈ (k.later.filterMap (anchorIn? (body ++ rest))).map (before.length + 1 + ·),
      decide (before.length < p) = true := by
    intro p hp
    obtain ⟨q, -, rfl⟩ := List.mem_map.mp hp
    simp
    omega
  have hstop : (before ++ k.anchor :: (body ++ rest)).length =
      before.length + 1 + (body ++ rest).length := by
    rw [hsplit, List.length_append, hlength]
  rw [tailField?, hfirst, Option.map_some, hpositions, List.filter_eq_self.mpr hright, hstop,
    Anchors.nearest_map_add, nearest_anchors hbody hrest, hsplit, ← hlength, List.take_append,
    List.drop_append]
  simp

theorem tailField?_eq_none {t : List Char} {k : TailField} (h : k.anchor ∉ t) :
    tailField? t k = none := by
  rw [tailField?, anchorIn?, List.idxOf?_eq_none_iff.mpr h, Option.map_none]

/-! ## Spelled fields -/

/-- A field behind its anchor, or nothing if there is no field. -/
def TailField.spelled (k : TailField) : Option (List Char) → List Char
  | none => []
  | some body => k.anchor :: body

/-- The characters that have a meaning of their own in an instruction. -/
def marks : List Char := ['\'', '@', '#', '$', '%']

theorem anchor_mem_marks (k : TailField) : k.anchor ∈ marks := by
  cases k <;> decide

/-- None of them stands in the text of a field, if there is one. -/
def IsUnmarked (field : Option (List Char)) : Prop :=
  ∀ body, field = some body → ∀ c ∈ body, c ∉ marks

theorem IsUnmarked.anchor_notMem {body : List Char} (h : IsUnmarked (some body)) (k : TailField) :
    k.anchor ∉ body :=
  fun hk => h body rfl k.anchor hk (anchor_mem_marks k)

theorem IsUnmarked.notMem_spelled {field : Option (List Char)} (h : IsUnmarked field)
    {k : TailField} {c : Char} (hmark : c ∈ marks) (hne : c ≠ k.anchor) : c ∉ k.spelled field := by
  cases field with
  | none => exact List.not_mem_nil
  | some body =>
    have hbody : c ∉ body := fun hc => h body rfl c hc hmark
    exact List.not_mem_cons_of_ne_of_not_mem hne hbody

theorem IsUnmarked.anchor_notMem_spelled {field : Option (List Char)} (h : IsUnmarked field)
    {k l : TailField} (hne : l.anchor ≠ k.anchor) : l.anchor ∉ k.spelled field :=
  h.notMem_spelled (anchor_mem_marks l) hne

theorem endsField_spelled {fields : List TailField} {k : TailField} {rest : List Char}
    (hk : k ∈ fields) (field : Option (List Char)) (hrest : EndsField fields rest) :
    EndsField fields (k.spelled field ++ rest) := by
  cases field with
  | none => exact hrest
  | some body => exact .inr ⟨k, hk, body ++ rest, rfl⟩

theorem tailField?_spelled {k : TailField} {before rest : List Char} {field : Option (List Char)}
    (hanchor : k.anchor ∉ before ++ rest) (hbefore : ∀ l ∈ k.later, l.anchor ∉ before)
    (hfield : IsUnmarked field) (hrest : EndsField k.later rest) :
    tailField? (before ++ (k.spelled field ++ rest)) k = field := by
  cases field with
  | none => exact tailField?_eq_none hanchor
  | some body =>
    have hleft : k.anchor ∉ before := fun h => hanchor (List.mem_append_left rest h)
    exact tailField?_append_anchor hleft hbefore (fun l _ => hfield.anchor_notMem l) hrest

/-- The fields of an address and of what is spelled behind it. -/
theorem anchorRules_spelled {address : List Char} {style foreground background : Option (List Char)}
    (haddress : ∀ k : TailField, k.anchor ∉ address) (hstyle : IsUnmarked style)
    (hforeground : IsUnmarked foreground) (hbackground : IsUnmarked background) :
    let t := address ++ (TailField.style.spelled style ++
      (TailField.foreground.spelled foreground ++ TailField.background.spelled background))
    addressField t = address ∧ tailField? t .style = style ∧
      tailField? t .foreground = foreground ∧ tailField? t .background = background := by
  intro t
  have hend : ∀ fields : List TailField, .background ∈ fields →
      EndsField fields (TailField.background.spelled background) := by
    intro fields hmem
    rw [← List.append_nil (TailField.background.spelled background)]
    exact endsField_spelled hmem background (.inl rfl)
  have hcolors : ∀ fields : List TailField, .foreground ∈ fields → .background ∈ fields →
      EndsField fields (TailField.foreground.spelled foreground ++
        TailField.background.spelled background) :=
    fun fields hf hb => endsField_spelled hf foreground (hend fields hb)
  refine ⟨?_, ?_, ?_, ?_⟩
  · apply addressField_append (fun k _ => haddress k)
    exact endsField_spelled (by decide) style (hcolors _ (by decide) (by decide))
  · apply tailField?_spelled _ (fun l _ => haddress l) hstyle (hcolors _ (by decide) (by decide))
    simp only [List.mem_append, not_or]
    exact ⟨haddress .style, hforeground.anchor_notMem_spelled (by decide),
      hbackground.anchor_notMem_spelled (by decide)⟩
  · have ht : t = (address ++ TailField.style.spelled style) ++
        (TailField.foreground.spelled foreground ++ TailField.background.spelled background) := by
      simp only [t, List.append_assoc]
    rw [ht]
    apply tailField?_spelled _ _ hforeground (hend _ (by decide))
    · simp only [List.mem_append, not_or]
      exact ⟨⟨haddress .foreground, hstyle.anchor_notMem_spelled (by decide)⟩,
        hbackground.anchor_notMem_spelled (by decide)⟩
    · intro l hl
      obtain rfl := List.mem_singleton.mp hl
      simp only [List.mem_append, not_or]
      exact ⟨haddress .background, hstyle.anchor_notMem_spelled (by decide)⟩
  · have ht : t = ((address ++ TailField.style.spelled style) ++
        TailField.foreground.spelled foreground) ++
          (TailField.background.spelled background ++ []) := by
      simp only [t, List.append_assoc, List.append_nil]
    rw [ht]
    apply tailField?_spelled _ _ hbackground (.inl rfl)
    · simp only [List.mem_append, List.append_nil, not_or]
      exact ⟨⟨haddress .background, hstyle.anchor_notMem_spelled (by decide)⟩,
        hforeground.anchor_notMem_spelled (by decide)⟩
    · intro l hl
      cases hl

/-! ## Spelled edits -/

/-- The content between quotes, or nothing if there is no content. -/
def spelledContent : Option String → List Char
  | none => []
  | some s => '\'' :: (s.toList ++ ['\''])

def styleField (tokens : List Char) : Option (List Char) :=
  if tokens = [] then none else some tokens

end Instruction

namespace CellEdit

open Instruction

/-- What stands behind the address anchor. -/
def spelledFields (e : CellEdit) (tokens : List Char) : List Char :=
  e.address.reference.toList ++ (TailField.style.spelled (styleField tokens) ++
    (TailField.foreground.spelled (e.foreground.map (·.hex.toList)) ++
      TailField.background.spelled (e.background.map (·.hex.toList))))

/-- The instruction that spells an edit, with the tokens of its style in a given order. -/
def spelled (e : CellEdit) (tokens : List Char) : String :=
  String.ofList (spelledContent e.content ++ '@' :: e.spelledFields tokens)

/-- There is neither a quote nor an address anchor in the content. -/
def HasPlainContent (e : CellEdit) : Prop :=
  ∀ s, e.content = some s → '\'' ∉ s.toList ∧ '@' ∉ s.toList

end CellEdit

namespace Instruction

theorem notMem_marks_of_isAlphanum {c : Char} (h : c.isAlphanum = true) : c ∉ marks := by
  intro hmem
  simp only [marks, List.mem_cons, List.not_mem_nil, or_false] at hmem
  rcases hmem with rfl | rfl | rfl | rfl | rfl <;> cases h

theorem notMem_marks_of_mem_tokens {s : StyleRequest} {c : Char} (h : c ∈ s.tokens) :
    c ∉ marks := by
  rcases StyleRequest.mem_tokens.mp h with ⟨a, -, rfl⟩ | ⟨switch, -, rfl⟩ | ⟨switch, -, rfl⟩ |
    ⟨switch, -, rfl⟩
  · cases a <;> decide
  all_goals cases switch <;> decide

theorem notMem_marks_of_mem_reference {a : CellAddress} {c : Char}
    (h : c ∈ a.reference.toList) : c ∉ marks :=
  notMem_marks_of_isAlphanum (isAlphanum_of_mem_cellName h)

theorem isUnmarked_styleField {s : StyleRequest} {tokens : List Char}
    (horder : tokens.Perm s.tokens) : IsUnmarked (styleField tokens) := by
  intro body hbody c hc
  unfold styleField at hbody
  split at hbody
  · cases hbody
  · obtain rfl := Option.some.inj hbody
    exact notMem_marks_of_mem_tokens (horder.mem_iff.mp hc)

theorem isUnmarked_hex (color : Option Color) : IsUnmarked (color.map (·.hex.toList)) := by
  intro body hbody c hc
  obtain ⟨found, -, rfl⟩ := Option.map_eq_some_iff.mp hbody
  exact notMem_marks_of_isAlphanum (Color.isAlphanum_of_mem_hex hc)

theorem quote_notMem_spelledFields {e : CellEdit} {tokens : List Char}
    (horder : tokens.Perm e.style.tokens) : '\'' ∉ e.spelledFields tokens := by
  have hquote : ∀ {k : TailField} {field : Option (List Char)}, IsUnmarked field →
      '\'' ∉ k.spelled field := by
    intro k field hfield
    exact hfield.notMem_spelled (by decide) (by cases k <;> decide)
  simp only [CellEdit.spelledFields, List.mem_append, not_or]
  exact ⟨fun h => notMem_marks_of_mem_reference h (by decide),
    hquote (isUnmarked_styleField horder), hquote (isUnmarked_hex e.foreground),
    hquote (isUnmarked_hex e.background)⟩

/-! ## Reading a spelled edit -/

theorem quoted?_spelledContent {content : Option String} {t : List Char}
    (hcontent : ∀ s, content = some s → '\'' ∉ s.toList) (ht : '\'' ∉ t) :
    (quoted? (spelledContent content ++ '@' :: t)).map String.ofList = content := by
  cases content with
  | none =>
    have hnone : ('@' :: t).idxOf? '\'' = none :=
      List.idxOf?_eq_none_iff.mpr (List.not_mem_cons_of_ne_of_not_mem (by decide) ht)
    rw [spelledContent, List.nil_append, quoted?, hnone]
    rfl
  | some s =>
    have hsecond : (s.toList ++ '\'' :: '@' :: t).idxOf? '\'' = some s.toList.length := by
      rw [idxOf?_append (hcontent s rfl), List.idxOf?_cons]
      simp
    have hquoted : quoted? ('\'' :: (s.toList ++ '\'' :: '@' :: t)) = some s.toList := by
      rw [quoted?, List.idxOf?_cons]
      simp only [beq_self_eq_true, if_true, Option.bind_eq_bind, Option.bind_some,
        List.drop_succ_cons, List.drop_zero, hsecond, List.take_left]
      rfl
    have hsplit : spelledContent (some s) ++ '@' :: t =
        '\'' :: (s.toList ++ '\'' :: '@' :: t) := by
      simp [spelledContent]
    rw [hsplit, hquoted, Option.map_some, String.ofList_toList]

theorem colorText?_hex (color : Option Color) :
    (colorText? (color.map (·.hex.toList))).map Color.ofText = color := by
  cases color with
  | none => rfl
  | some c =>
    have htext : colorText? (some c.hex.toList) = some c.hex := by
      rw [colorText?, String.ofList_toList]
      intro hempty
      simp [Color.hex, Color.channelDigits] at hempty
    rw [Option.map_some, htext, Option.map_some, Color.ofText_hex]

theorem ofTokens_styleField {s : StyleRequest} {tokens : List Char}
    (horder : tokens.Perm s.tokens) :
    StyleRequest.ofTokens ((styleField tokens).getD []) = s := by
  have htokens : (styleField tokens).getD [] = tokens := by
    unfold styleField
    split
    · next hempty => exact hempty.symm
    · rfl
  rw [htokens, StyleRequest.ofTokens_congr fun c => horder.mem_iff, StyleRequest.ofTokens_tokens]

theorem decodeAddress_cellReference (a : CellAddress) : decodeAddress a.reference = some a := by
  rw [CellAddress.reference, decodeAddress_cellName a.row a.one_le_column, CellAddress.ofPair?,
    dif_pos ⟨⟨a.one_le_row, a.row_le⟩, a.one_le_column, a.column_le⟩]

theorem fields?_spelled {e : CellEdit} {tokens : List Char} (horder : tokens.Perm e.style.tokens)
    (hcontent : e.HasPlainContent) :
    fields? (e.spelled tokens).toList = some
      { content := quoted? (e.spelled tokens).toList
        address := e.address.reference.toList
        style := styleField tokens
        foreground := e.foreground.map (·.hex.toList)
        background := e.background.map (·.hex.toList) } := by
  have hcontentAt : '@' ∉ spelledContent e.content := by
    unfold spelledContent
    split
    · exact List.not_mem_nil
    · next s hs => simp [(hcontent s hs).2]
  have hafter : afterAddressAnchor? (e.spelled tokens).toList = some (e.spelledFields tokens) := by
    rw [CellEdit.spelled, String.toList_ofList, afterAddressAnchor?_append hcontentAt]
  have hreference : ∀ k : TailField, k.anchor ∉ e.address.reference.toList :=
    fun k hk => notMem_marks_of_mem_reference hk (anchor_mem_marks k)
  obtain ⟨haddress, hstyle, hforeground, hbackground⟩ := anchorRules_spelled hreference
    (isUnmarked_styleField horder) (isUnmarked_hex e.foreground) (isUnmarked_hex e.background)
  rw [fields?_eq_ruledFields?, ruledFields?, hafter, Option.map_some]
  simp only [CellEdit.spelledFields, haddress, hstyle, hforeground, hbackground]

/-- An edit is read from the instruction that spells it, whatever the order of its tokens. -/
theorem parse_of_spelled {e : CellEdit} {tokens : List Char} (horder : tokens.Perm e.style.tokens)
    (hcontent : e.HasPlainContent) (index : Nat) :
    parse index (e.spelled tokens) = .ok { e with index } := by
  have hquoted : (quoted? (e.spelled tokens).toList).map String.ofList = e.content := by
    rw [CellEdit.spelled, String.toList_ofList]
    exact quoted?_spelledContent (fun s hs => (hcontent s hs).1)
      (quote_notMem_spelledFields horder)
  simp only [parse, fields?_spelled horder hcontent, String.ofList_toList,
    decodeAddress_cellReference, hquoted, ofTokens_styleField horder, colorText?_hex]

/-- An edit whose content has neither a quote nor an address anchor is read from the instruction
that spells it, whatever the order of its style tokens, and no other edit has the same spelling. -/
theorem parse_spelled (e : CellEdit) (tokens : List Char) (horder : tokens.Perm e.style.tokens)
    (hcontent : e.HasPlainContent) :
    parse e.index (e.spelled tokens) = .ok e ∧
      ∀ (other : CellEdit) (others : List Char), others.Perm other.style.tokens →
        other.HasPlainContent → other.spelled others = e.spelled tokens →
          other = { e with index := other.index } := by
  refine ⟨parse_of_spelled horder hcontent e.index, fun other others hothers hplain hsame => ?_⟩
  have hread := parse_of_spelled hothers hplain other.index
  rw [hsame, parse_of_spelled horder hcontent other.index] at hread
  exact (Except.ok.inj hread).symm

/-- The edit with every field of an instruction, and with anchors in its content. -/
def fullEdit : CellEdit where
  index := 3
  address := ⟨4294967295, 27, by decide, by decide, by decide, by decide⟩
  content := some "50% #1"
  style := ⟨some .center, some true, none, some false⟩
  foreground := some ⟨255, 0, 10⟩
  background := some ⟨0, 128, 1⟩

theorem fullEdit_is_read :
    ['u', '↔', 'B'].Perm fullEdit.style.tokens ∧ fullEdit.HasPlainContent ∧
      parse 3 "'50% #1'@AA4294967295#u↔B$FF000A%008001" = .ok fullEdit := by
  have hspelled : fullEdit.spelled ['u', '↔', 'B'] =
      "'50% #1'@AA4294967295#u↔B$FF000A%008001" := by decide +kernel
  have horder : ['u', '↔', 'B'].Perm fullEdit.style.tokens := by decide
  have hcontent : fullEdit.HasPlainContent := by
    intro s hs
    cases hs
    decide
  have hread := (parse_spelled fullEdit ['u', '↔', 'B'] horder hcontent).1
  rw [hspelled] at hread
  exact ⟨horder, hcontent, hread⟩

end WorkbookTools.Instruction
