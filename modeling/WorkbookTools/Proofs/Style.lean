import WorkbookTools.Style

/-!
# Style requests and their tokens

A request is spelled with one token for each attribute that it overrides. Which tokens a text has
decides the request, so their order is of no matter.

* `ofTokens_congr`: only the presence of characters counts.
* `ofTokens_tokens`: a request is read from its tokens.
-/

namespace WorkbookTools.StyleRequest

/-- The token of an attribute that is switched on or off. -/
def flagToken (on off : Char) (switch : Bool) : Char := if switch then on else off

/-- The tokens of a request, one for each attribute that it overrides. -/
def tokens (s : StyleRequest) : List Char :=
  (s.alignment.map alignmentToken).toList ++ (s.bold.map (flagToken 'B' 'b')).toList ++
    (s.italic.map (flagToken 'I' 'i')).toList ++ (s.underline.map (flagToken 'U' 'u')).toList

theorem ofTokens_congr {l l' : List Char} (h : ∀ c, c ∈ l ↔ c ∈ l') : ofTokens l = ofTokens l' := by
  simp only [ofTokens, flag, h]

theorem mem_tokens {s : StyleRequest} {c : Char} :
    c ∈ s.tokens ↔
      (∃ a, s.alignment = some a ∧ alignmentToken a = c) ∨
        (∃ switch, s.bold = some switch ∧ flagToken 'B' 'b' switch = c) ∨
        (∃ switch, s.italic = some switch ∧ flagToken 'I' 'i' switch = c) ∨
        ∃ switch, s.underline = some switch ∧ flagToken 'U' 'u' switch = c := by
  simp [tokens, or_assoc]

theorem alignmentToken_mem_tokens {s : StyleRequest} {a : HorizontalAlignment} :
    alignmentToken a ∈ s.tokens ↔ s.alignment = some a := by
  rw [mem_tokens]
  constructor
  · rintro (⟨b, hb, h⟩ | ⟨switch, -, h⟩ | ⟨switch, -, h⟩ | ⟨switch, -, h⟩)
    · cases a <;> cases b <;> first | exact hb | cases h
    all_goals cases a <;> cases switch <;> cases h
  · exact fun h => .inl ⟨a, h, rfl⟩

theorem flagToken_mem_tokens (s : StyleRequest) (switch : Bool) :
    (flagToken 'B' 'b' switch ∈ s.tokens ↔ s.bold = some switch) ∧
      (flagToken 'I' 'i' switch ∈ s.tokens ↔ s.italic = some switch) ∧
      (flagToken 'U' 'u' switch ∈ s.tokens ↔ s.underline = some switch) := by
  simp only [mem_tokens]
  refine ⟨⟨?_, fun h => .inr (.inl ⟨switch, h, rfl⟩)⟩,
    ⟨?_, fun h => .inr (.inr (.inl ⟨switch, h, rfl⟩))⟩,
    ⟨?_, fun h => .inr (.inr (.inr ⟨switch, h, rfl⟩))⟩⟩
  all_goals
    rintro (⟨a, -, h⟩ | ⟨other, hother, h⟩ | ⟨other, hother, h⟩ | ⟨other, hother, h⟩)
    · cases a <;> cases switch <;> cases h
    all_goals cases switch <;> cases other <;> first | exact hother | cases h

/-- A switch is read from the presence of its two tokens. -/
theorem flag_eq {on off : Char} {l : List Char} {value : Option Bool}
    (h : ∀ switch, flagToken on off switch ∈ l ↔ value = some switch) :
    flag on off l = value := by
  have hon : on ∈ l ↔ value = some true := h true
  have hoff : off ∈ l ↔ value = some false := h false
  rw [flag]
  simp only [hon, hoff]
  match value with
  | none => rfl
  | some true => rfl
  | some false => rfl

/-- A request is read from its tokens. -/
theorem ofTokens_tokens (s : StyleRequest) : ofTokens s.tokens = s := by
  have halignment : (ofTokens s.tokens).alignment = s.alignment := by
    simp only [ofTokens, alignmentToken_mem_tokens]
    match s.alignment with
    | none => rfl
    | some .left => rfl
    | some .center => rfl
    | some .right => rfl
  have hflags := flagToken_mem_tokens s
  have hbold : (ofTokens s.tokens).bold = s.bold := flag_eq fun switch => (hflags switch).1
  have hitalic : (ofTokens s.tokens).italic = s.italic := flag_eq fun switch => (hflags switch).2.1
  have hunderline : (ofTokens s.tokens).underline = s.underline :=
    flag_eq fun switch => (hflags switch).2.2
  calc ofTokens s.tokens
    _ = ⟨(ofTokens s.tokens).alignment, (ofTokens s.tokens).bold, (ofTokens s.tokens).italic,
          (ofTokens s.tokens).underline⟩ := rfl
    _ = ⟨s.alignment, s.bold, s.italic, s.underline⟩ := by
      rw [halignment, hbold, hitalic, hunderline]

end WorkbookTools.StyleRequest
