import WorkbookTools.Path.Glob

/-!
# What a glob pattern stands for

A row of tokens stands for the texts that can be cut into pieces, one for each token: any piece for a
star, and for every other token one character that it admits. Matching keeps, from the last token to
the first, the positions from which the rest of the text can be cut.

* `matchTokens_iff`: matching decides what the tokens stand for.
* `matchText_stars`, `matchText_plain`: two stars stand for every text, and a text without special
  characters stands for itself.
-/

namespace WorkbookTools.Glob

variable {token : Token} {more : List Token} {s t : List Char} {c : Char}

/-! ## Rows of tokens -/

/-- The row of tokens stands for the text. -/
def StandsFor : List Token → List Char → Prop
  | [], s => s = []
  | .many :: more, s => ∃ taken rest, s = taken ++ rest ∧ StandsFor more rest
  | token :: more, s => ∃ c rest, s = c :: rest ∧ token.admits c = true ∧ StandsFor more rest

theorem standsFor_one (htoken : token ≠ .many) :
    StandsFor (token :: more) s ↔
      ∃ c rest, s = c :: rest ∧ token.admits c = true ∧ StandsFor more rest := by
  cases token with
  | many => exact absurd rfl htoken
  | literal => rfl
  | oneOf => rfl

theorem standsFor_many_nil : StandsFor (.many :: more) [] ↔ StandsFor more [] := by
  constructor
  · rintro ⟨taken, rest, hempty, h⟩
    obtain ⟨-, rfl⟩ := List.append_eq_nil_iff.mp hempty.symm
    exact h
  · exact fun h => ⟨[], [], rfl, h⟩

/-- A star stands for nothing, or for one more character. -/
theorem standsFor_many_cons :
    StandsFor (.many :: more) (c :: s) ↔
      StandsFor more (c :: s) ∨ StandsFor (.many :: more) s := by
  constructor
  · rintro ⟨taken, rest, htext, h⟩
    cases taken with
    | nil => exact .inl (htext ▸ h)
    | cons first taken => exact .inr ⟨taken, rest, (List.cons.inj htext).2, h⟩
  · rintro (h | ⟨taken, rest, rfl, h⟩)
    · exact ⟨[], c :: s, rfl, h⟩
    · exact ⟨c :: taken, rest, rfl, h⟩

theorem standsFor_one_nil (htoken : token ≠ .many) : ¬ StandsFor (token :: more) [] := by
  rw [standsFor_one htoken]
  rintro ⟨c, rest, hempty, -⟩
  cases hempty

theorem standsFor_one_cons (htoken : token ≠ .many) :
    StandsFor (token :: more) (c :: s) ↔ token.admits c = true ∧ StandsFor more s := by
  rw [standsFor_one htoken]
  constructor
  · rintro ⟨d, rest, htext, hadmits, h⟩
    obtain ⟨rfl, rfl⟩ := List.cons.inj htext
    exact ⟨hadmits, h⟩
  · exact fun h => ⟨c, s, rfl, h.1, h.2⟩

/-! ## Matching -/

theorem matchesFrom_one (htoken : token ≠ .many) :
    matchesFrom s (token :: more) = oneThen token s (matchesFrom s more) := by
  cases token with
  | many => exact absurd rfl htoken
  | literal => rfl
  | oneOf => rfl

/-- The flag of the first position is the answer for the whole text, and the others are those of the
text without its first character. -/
theorem matchesFrom_cons (tokens : List Token) :
    matchesFrom (c :: s) tokens = matchTokens tokens (c :: s) :: matchesFrom s tokens := by
  suffices htail : ∃ flag, matchesFrom (c :: s) tokens = flag :: matchesFrom s tokens by
    obtain ⟨flag, hflag⟩ := htail
    rw [matchTokens, hflag, List.headD_cons]
  induction tokens with
  | nil => exact ⟨false, rfl⟩
  | cons token more ih =>
    obtain ⟨flag, hflag⟩ := ih
    by_cases htoken : token = .many
    · subst htoken
      rw [matchesFrom, hflag]
      exact ⟨_, rfl⟩
    · rw [matchesFrom_one htoken, matchesFrom_one htoken, hflag]
      exact ⟨_, rfl⟩

theorem matchesFrom_nil (tokens : List Token) : matchesFrom [] tokens = [matchTokens tokens []] := by
  suffices hlast : ∃ flag, matchesFrom [] tokens = [flag] by
    obtain ⟨flag, hflag⟩ := hlast
    rw [matchTokens, hflag, List.headD_cons]
  induction tokens with
  | nil => exact ⟨true, rfl⟩
  | cons token more ih =>
    obtain ⟨flag, hflag⟩ := ih
    by_cases htoken : token = .many
    · subst htoken
      rw [matchesFrom, hflag]
      exact ⟨_, rfl⟩
    · rw [matchesFrom_one htoken]
      exact ⟨false, rfl⟩

theorem matchTokens_many_nil : matchTokens (.many :: more) [] = matchTokens more [] := by
  rw [matchTokens, matchesFrom, matchesFrom_nil]
  simp [anyFrom]

theorem matchTokens_many_cons :
    matchTokens (.many :: more) (c :: s) =
      (matchTokens more (c :: s) || matchTokens (.many :: more) s) := by
  rw [matchTokens, matchesFrom, matchesFrom_cons]
  rfl

theorem matchTokens_one_nil (htoken : token ≠ .many) : matchTokens (token :: more) [] = false := by
  rw [matchTokens, matchesFrom_one htoken]
  rfl

theorem matchTokens_one_cons (htoken : token ≠ .many) :
    matchTokens (token :: more) (c :: s) = (token.admits c && matchTokens more s) := by
  rw [matchTokens, matchesFrom_one htoken, matchesFrom_cons]
  rfl

/-- Matching decides whether the tokens stand for the text. -/
theorem matchTokens_iff {tokens : List Token} : matchTokens tokens s = true ↔ StandsFor tokens s := by
  induction tokens generalizing s with
  | nil =>
    cases s with
    | nil => exact iff_of_true rfl rfl
    | cons c rest => exact iff_of_false Bool.false_ne_true (List.cons_ne_nil c rest)
  | cons token more ih =>
    by_cases htoken : token = .many
    · subst htoken
      induction s with
      | nil => rw [matchTokens_many_nil, standsFor_many_nil, ih]
      | cons c rest ihs =>
        rw [matchTokens_many_cons, standsFor_many_cons, Bool.or_eq_true, ih, ihs]
    · cases s with
      | nil =>
        rw [matchTokens_one_nil htoken]
        exact iff_of_false Bool.false_ne_true (standsFor_one_nil htoken)
      | cons c rest =>
        rw [matchTokens_one_cons htoken, standsFor_one_cons htoken, Bool.and_eq_true, ih]

/-! ## Patterns -/

/-- The text has no character with a special meaning in a pattern. -/
def IsPlain (text : String) : Prop := ∀ c ∈ text.toList, c ≠ '*' ∧ c ≠ '?' ∧ c ≠ '['

instance (text : String) : Decidable (IsPlain text) := List.decidableBAll _ _

theorem tokens_plain {pattern : List Char} (h : ∀ c ∈ pattern, c ≠ '*' ∧ c ≠ '?' ∧ c ≠ '[') :
    tokens pattern = pattern.map .literal := by
  induction pattern with
  | nil => rw [tokens, List.map_nil]
  | cons c rest ih =>
    obtain ⟨⟨hstar, hquestion, hbracket⟩, hrest⟩ := List.forall_mem_cons.mp h
    rw [tokens, ih hrest, List.map_cons]
    · exact hstar
    · exact hquestion
    · exact hbracket

theorem standsFor_literals_iff {word : List Char} :
    StandsFor (word.map .literal) s ↔ s = word := by
  induction word generalizing s with
  | nil => exact Iff.rfl
  | cons c rest ih =>
    have hliteral : Token.literal c ≠ .many := nofun
    rw [List.map_cons]
    cases s with
    | nil => exact iff_of_false (standsFor_one_nil hliteral) (List.cons_ne_nil c rest).symm
    | cons d t =>
      rw [standsFor_one_cons hliteral, ih, Token.admits, decide_eq_true_iff, List.cons.injEq]

/-- A pattern without special characters matches only itself. -/
theorem matchText_plain {pattern text : String} (h : IsPlain pattern) :
    matchText pattern text = true ↔ text = pattern := by
  rw [matchText, matchTokens_iff, tokens_plain h, standsFor_literals_iff]
  exact String.toList_inj

/-- Two stars match every text, just like one. -/
theorem matchText_stars (text : String) : matchText "**" text = true := by
  have htokens : tokens "**".toList = [.many, .many] := by
    have hstars : "**".toList = ['*', '*'] := rfl
    rw [hstars, tokens, tokens, tokens]
  rw [matchText, htokens]
  exact matchTokens_iff.mpr
    ⟨text.toList, [], (List.append_nil _).symm, [], [], rfl, rfl⟩

end WorkbookTools.Glob
