import Mathlib
import WorkbookTools.Proofs.Style

/-!
# The priority of style tokens

Of contradictory tokens the one that is looked for last prevails, wherever they stand. So every
attribute has an order, from not overridden to the value of its last token, and a text requests the
greatest of what its characters request.

* `rank_ofTokens`: the rank of a request, from the presence of its tokens.
* `ofTokens_append`: the request of two texts is the join of their requests.
* `ofTokens_eq_of_mem_iff`: only the presence of tokens counts, which follows from the join.
* `override_eq_sup`: a table in which every entry prevails over the earlier ones, and the run of it.
* `ofTokens_eq_override`: going through the tokens in their order, a later one replaces an earlier.

Main statement: `ofTokens_priorityJoin`.
-/

namespace WorkbookTools.StyleRequest

/-! ## The order of requests -/

/-- The alignments, from not overridden to the one that prevails over all others. -/
def alignmentRank : Option HorizontalAlignment → Nat
  | none => 0
  | some .right => 1
  | some .left => 2
  | some .center => 3

/-- What can be done to a switch: nothing, switching it on, and switching it off, which prevails. -/
def switchRank : Option Bool → Nat
  | none => 0
  | some true => 1
  | some false => 2

theorem alignmentRank_injective : Function.Injective alignmentRank := by
  rintro (_ | _ | _ | _) (_ | _ | _ | _) h <;> first | rfl | cases h

theorem switchRank_injective : Function.Injective switchRank := by
  rintro (_ | _ | _) (_ | _ | _) h <;> first | rfl | cases h

/-- The ranks of the attributes. -/
def rank (s : StyleRequest) : Nat × Nat × Nat × Nat :=
  (alignmentRank s.alignment, switchRank s.bold, switchRank s.italic, switchRank s.underline)

theorem rank_injective : Function.Injective rank := by
  rintro ⟨alignment, bold, italic, underline⟩ ⟨alignment', bold', italic', underline'⟩ h
  simp only [rank, Prod.mk.injEq] at h
  obtain ⟨halignment, hbold, hitalic, hunderline⟩ := h
  rw [alignmentRank_injective halignment, switchRank_injective hbold, switchRank_injective hitalic,
    switchRank_injective hunderline]

/-- Requests are compared attribute by attribute. -/
instance : PartialOrder StyleRequest := PartialOrder.lift rank rank_injective

/-- The one of two values that has the higher rank. -/
def prevailing {α : Type} (rank : α → Nat) (a b : α) : α := if rank a ≤ rank b then b else a

theorem rank_prevailing {α : Type} (rank : α → Nat) (a b : α) :
    rank (prevailing rank a b) = max (rank a) (rank b) := by
  rw [prevailing]
  split
  · next h => exact (max_eq_right h).symm
  · next h => exact (max_eq_left (Nat.le_of_not_le h)).symm

/-- Of every attribute the value that prevails. -/
def join (s t : StyleRequest) : StyleRequest where
  alignment := prevailing alignmentRank s.alignment t.alignment
  bold := prevailing switchRank s.bold t.bold
  italic := prevailing switchRank s.italic t.italic
  underline := prevailing switchRank s.underline t.underline

theorem rank_join (s t : StyleRequest) : (join s t).rank = s.rank ⊔ t.rank := by
  simp only [rank, join, rank_prevailing]
  rfl

theorem le_iff_rank {s t : StyleRequest} : s ≤ t ↔ s.rank ≤ t.rank := Iff.rfl

instance : SemilatticeSup StyleRequest where
  sup := join
  le_sup_left s t := by
    rw [le_iff_rank, rank_join]
    exact le_sup_left
  le_sup_right s t := by
    rw [le_iff_rank, rank_join]
    exact le_sup_right
  sup_le s t r hs ht := by
    rw [le_iff_rank, rank_join]
    exact sup_le hs ht

instance : OrderBot StyleRequest where
  bot := empty
  bot_le _ := le_iff_rank.mpr
    ⟨Nat.zero_le _, Nat.zero_le _, Nat.zero_le _, Nat.zero_le _⟩

theorem rank_sup (s t : StyleRequest) : (s ⊔ t).rank = s.rank ⊔ t.rank := rank_join s t

theorem bot_eq_empty : (⊥ : StyleRequest) = empty := rfl

/-! ## Two texts -/

/-- The rank that a text gets from a token, if the token is in it. -/
def weight (token : Char) (rank : Nat) (text : List Char) : Nat := if token ∈ text then rank else 0

theorem weight_append (token : Char) (rank : Nat) (s t : List Char) :
    weight token rank (s ++ t) = max (weight token rank s) (weight token rank t) := by
  simp only [weight, List.mem_append]
  by_cases hs : token ∈ s <;> by_cases ht : token ∈ t <;> simp [hs, ht]

theorem switchRank_flag (on off : Char) (text : List Char) :
    switchRank (flag on off text) = max (weight on 1 text) (weight off 2 text) := by
  simp only [flag, weight]
  by_cases hon : on ∈ text <;> by_cases hoff : off ∈ text <;> simp [hon, hoff, switchRank]

theorem alignmentRank_ofTokens (text : List Char) :
    alignmentRank (ofTokens text).alignment =
      max (weight '➡' 1 text) (max (weight '⬅' 2 text) (weight '↔' 3 text)) := by
  simp only [ofTokens, alignmentToken, weight]
  by_cases hright : '➡' ∈ text <;> by_cases hleft : '⬅' ∈ text <;>
    by_cases hcenter : '↔' ∈ text <;> simp [hright, hleft, hcenter, alignmentRank]

/-- The rank of a request, from the presence of its tokens. -/
theorem rank_ofTokens (text : List Char) :
    (ofTokens text).rank =
      (max (weight '➡' 1 text) (max (weight '⬅' 2 text) (weight '↔' 3 text)),
        max (weight 'B' 1 text) (weight 'b' 2 text), max (weight 'I' 1 text) (weight 'i' 2 text),
        max (weight 'U' 1 text) (weight 'u' 2 text)) := by
  rw [rank, alignmentRank_ofTokens]
  simp only [ofTokens, switchRank_flag]

/-- The request of two texts is the join of their requests. -/
theorem ofTokens_append (s t : List Char) : ofTokens (s ++ t) = ofTokens s ⊔ ofTokens t := by
  apply rank_injective
  rw [rank_sup, rank_ofTokens, rank_ofTokens, rank_ofTokens]
  simp only [weight_append, Prod.mk_sup_mk, Prod.mk.injEq]
  refine ⟨?_, max_max_max_comm _ _ _ _, max_max_max_comm _ _ _ _, max_max_max_comm _ _ _ _⟩
  rw [max_max_max_comm (weight '⬅' 2 s), max_max_max_comm]

theorem ofTokens_cons (c : Char) (rest : List Char) :
    ofTokens (c :: rest) = ofTokens [c] ⊔ ofTokens rest :=
  ofTokens_append [c] rest

/-! ## The tokens that are present -/

theorem ofTokens_singleton_le {c : Char} {text : List Char} (h : c ∈ text) :
    ofTokens [c] ≤ ofTokens text := by
  induction text with
  | nil => cases h
  | cons d rest ih =>
    rw [ofTokens_cons d rest]
    rcases List.mem_cons.mp h with rfl | hrest
    · exact le_sup_left
    · exact (ih hrest).trans le_sup_right

theorem ofTokens_le {text : List Char} {s : StyleRequest} (h : ∀ c ∈ text, ofTokens [c] ≤ s) :
    ofTokens text ≤ s := by
  induction text with
  | nil => exact bot_le
  | cons c rest ih =>
    rw [ofTokens_cons c rest]
    exact sup_le (h c List.mem_cons_self) (ih fun d hd => h d (List.mem_cons_of_mem c hd))

/-- The tokens, in the order in which they are looked for, and what each of them requests. -/
def tokenOrder : List (Char × StyleRequest) :=
  [('➡', { empty with alignment := some .right }), ('⬅', { empty with alignment := some .left }),
   ('↔', { empty with alignment := some .center }), ('B', { empty with bold := some true }),
   ('b', { empty with bold := some false }), ('I', { empty with italic := some true }),
   ('i', { empty with italic := some false }), ('U', { empty with underline := some true }),
   ('u', { empty with underline := some false })]

def IsToken (c : Char) : Prop := c ∈ tokenOrder.map Prod.fst

instance (c : Char) : Decidable (IsToken c) :=
  inferInstanceAs (Decidable (c ∈ tokenOrder.map Prod.fst))

/-- A character that is no token requests nothing. -/
theorem ofTokens_singleton_of_not_isToken {c : Char} (h : ¬ IsToken c) : ofTokens [c] = ⊥ := by
  simp only [IsToken, tokenOrder, List.map_cons, List.map_nil, List.mem_cons, List.not_mem_nil,
    or_false, not_or] at h
  simp [ofTokens, flag, alignmentToken, bot_eq_empty, empty, eq_comm, h]

theorem ofTokens_singleton_of_isToken {c : Char} (h : IsToken c) : ofTokens [c] ≠ ⊥ := by
  have hall : (tokenOrder.map Prod.fst).all (fun c => ofTokens [c] ≠ empty) = true := by decide
  exact of_decide_eq_true (List.all_eq_true.mp hall c h)

/-- Texts with the same tokens make the same request. -/
theorem ofTokens_eq_of_mem_iff {s t : List Char} (h : ∀ c, IsToken c → (c ∈ s ↔ c ∈ t)) :
    ofTokens s = ofTokens t := by
  have hle : ∀ {s t : List Char}, (∀ c, IsToken c → c ∈ s → c ∈ t) → ofTokens s ≤ ofTokens t := by
    intro s t hst
    refine ofTokens_le fun c hc => ?_
    by_cases htoken : IsToken c
    · exact ofTokens_singleton_le (hst c htoken hc)
    · rw [ofTokens_singleton_of_not_isToken htoken]
      exact bot_le
  exact le_antisymm (hle fun c hc => (h c hc).mp) (hle fun c hc => (h c hc).mpr)

theorem isEmpty_iff {s : StyleRequest} : s.isEmpty = true ↔ s = ⊥ := by
  constructor
  · intro h
    simp only [isEmpty, Bool.and_eq_true, Option.isNone_iff_eq_none] at h
    obtain ⟨⟨⟨halignment, hbold⟩, hitalic⟩, hunderline⟩ := h
    apply rank_injective
    rw [rank, halignment, hbold, hitalic, hunderline]
    rfl
  · rintro rfl
    rfl

theorem isEmpty_ofTokens {text : List Char} :
    (ofTokens text).isEmpty = true ↔ ∀ c ∈ text, ¬ IsToken c := by
  rw [isEmpty_iff]
  constructor
  · intro hbot c hc htoken
    have hle := ofTokens_singleton_le hc
    rw [hbot] at hle
    exact ofTokens_singleton_of_isToken htoken (le_bot_iff.mp hle)
  · intro hnone
    refine le_bot_iff.mp (ofTokens_le fun c hc => ?_)
    rw [ofTokens_singleton_of_not_isToken (hnone c hc)]

/-! ## The order of the tokens -/

/-- What a request is after a further one, which replaces the attributes that it overrides. -/
def overriddenBy (s t : StyleRequest) : StyleRequest where
  alignment := t.alignment <|> s.alignment
  bold := t.bold <|> s.bold
  italic := t.italic <|> s.italic
  underline := t.underline <|> s.underline

/-- The request of the entries that are present, each of which replaces what the earlier ones have
requested. -/
def override (text : List Char) (entries : List (Char × StyleRequest)) (s : StyleRequest) :
    StyleRequest :=
  entries.foldl (fun s entry => if entry.1 ∈ text then s.overriddenBy entry.2 else s) s

/-- No attribute gets a lower rank when `t` replaces it. -/
structure PrevailsOver (t s : StyleRequest) : Prop where
  alignment : t.alignment = none ∨ alignmentRank s.alignment ≤ alignmentRank t.alignment
  bold : t.bold = none ∨ switchRank s.bold ≤ switchRank t.bold
  italic : t.italic = none ∨ switchRank s.italic ≤ switchRank t.italic
  underline : t.underline = none ∨ switchRank s.underline ≤ switchRank t.underline

instance (t s : StyleRequest) : Decidable (t.PrevailsOver s) :=
  decidable_of_iff
    ((t.alignment = none ∨ alignmentRank s.alignment ≤ alignmentRank t.alignment) ∧
      (t.bold = none ∨ switchRank s.bold ≤ switchRank t.bold) ∧
      (t.italic = none ∨ switchRank s.italic ≤ switchRank t.italic) ∧
      (t.underline = none ∨ switchRank s.underline ≤ switchRank t.underline))
    ⟨fun ⟨ha, hb, hi, hu⟩ => ⟨ha, hb, hi, hu⟩, fun ⟨ha, hb, hi, hu⟩ => ⟨ha, hb, hi, hu⟩⟩

theorem orElse_eq_prevailing {α : Type} {rank : Option α → Nat} (hnone : rank none = 0)
    (hinjective : Function.Injective rank) {a b : Option α} (h : b = none ∨ rank a ≤ rank b) :
    (b <|> a) = prevailing rank a b := by
  rw [prevailing]
  cases b with
  | none =>
    rw [hnone]
    split
    · next hzero => exact hinjective (by rw [hnone]; exact Nat.le_zero.mp hzero)
    · rfl
  | some value =>
    rw [if_pos (h.resolve_left (Option.some_ne_none value))]
    rfl

theorem overriddenBy_eq_sup {s t : StyleRequest} (h : t.PrevailsOver s) :
    s.overriddenBy t = s ⊔ t := by
  change s.overriddenBy t = join s t
  rw [overriddenBy, join, orElse_eq_prevailing rfl alignmentRank_injective h.alignment,
    orElse_eq_prevailing rfl switchRank_injective h.bold,
    orElse_eq_prevailing rfl switchRank_injective h.italic,
    orElse_eq_prevailing rfl switchRank_injective h.underline]

theorem PrevailsOver.sup {s r t : StyleRequest} (hs : t.PrevailsOver s) (hr : t.PrevailsOver r) :
    t.PrevailsOver (s ⊔ r) := by
  have hjoin : ∀ {α : Type} {rank : α → Nat} {a b c : α} {p : Prop}, p ∨ rank a ≤ rank c →
      p ∨ rank b ≤ rank c → p ∨ rank (prevailing rank a b) ≤ rank c := by
    intro α rank a b c p ha hb
    rw [rank_prevailing rank a b]
    exact ha.elim .inl fun ha => hb.imp id fun hb => max_le ha hb
  exact ⟨hjoin hs.alignment hr.alignment, hjoin hs.bold hr.bold, hjoin hs.italic hr.italic,
    hjoin hs.underline hr.underline⟩

/-- What the present tokens among the entries request. -/
def requested (text : List Char) (entries : List (Char × StyleRequest)) : Multiset StyleRequest :=
  ((entries.filter (·.1 ∈ text)).map Prod.snd : List StyleRequest)

theorem requested_cons_of_mem {text : List Char} {e : Char × StyleRequest} (h : e.1 ∈ text)
    (rest : List (Char × StyleRequest)) :
    requested text (e :: rest) = e.2 ::ₘ requested text rest := by
  rw [requested, List.filter_cons_of_pos (by simpa using h)]
  rfl

theorem requested_cons_of_notMem {text : List Char} {e : Char × StyleRequest} (h : e.1 ∉ text)
    (rest : List (Char × StyleRequest)) : requested text (e :: rest) = requested text rest := by
  rw [requested, List.filter_cons_of_neg (by simpa using h)]
  rfl

theorem mem_requested {text : List Char} {entries : List (Char × StyleRequest)}
    {s : StyleRequest} : s ∈ requested text entries ↔ ∃ c ∈ text, (c, s) ∈ entries := by
  simp only [requested, Multiset.mem_coe, List.mem_map, List.mem_filter, decide_eq_true_eq]
  constructor
  · rintro ⟨e, ⟨hentry, hpresent⟩, rfl⟩
    exact ⟨e.1, hpresent, hentry⟩
  · rintro ⟨c, hpresent, hentry⟩
    exact ⟨(c, s), ⟨hentry, hpresent⟩, rfl⟩

/-- If every entry prevails over the earlier ones, replacing comes to the same as joining. -/
theorem override_eq_sup (text : List Char) {entries : List (Char × StyleRequest)}
    {s : StyleRequest} (hs : ∀ e ∈ entries, e.2.PrevailsOver s)
    (hsorted : entries.Pairwise fun e f => f.2.PrevailsOver e.2) :
    override text entries s = s ⊔ (requested text entries).sup := by
  -- A later entry prevails over what has been requested so far, by `PrevailsOver.sup`.
  induction entries generalizing s with
  | nil => exact (sup_bot_eq s).symm
  | cons e rest ih =>
    obtain ⟨hfirst, hrest⟩ := List.pairwise_cons.mp hsorted
    have hbehind : ∀ f ∈ rest, f.2.PrevailsOver s := fun f hf => hs f (List.mem_cons_of_mem e hf)
    rw [override, List.foldl_cons, ← override]
    by_cases hpresent : e.1 ∈ text
    · rw [if_pos hpresent, overriddenBy_eq_sup (hs e List.mem_cons_self),
        ih (fun f hf => (hbehind f hf).sup (hfirst f hf)) hrest,
        requested_cons_of_mem hpresent, Multiset.sup_cons, sup_assoc]
    · rw [if_neg hpresent, ih hbehind hrest, requested_cons_of_notMem hpresent]

theorem ofTokens_of_mem_tokenOrder {e : Char × StyleRequest} (h : e ∈ tokenOrder) :
    ofTokens [e.1] = e.2 := by
  have hall : tokenOrder.all (fun e => decide (ofTokens [e.1] = e.2)) = true := by decide
  exact of_decide_eq_true (List.all_eq_true.mp hall e h)

/-- A text requests the greatest of what its tokens request. -/
theorem ofTokens_eq_sup (text : List Char) : ofTokens text = (requested text tokenOrder).sup := by
  apply le_antisymm
  · refine ofTokens_le fun c hc => ?_
    by_cases htoken : IsToken c
    · obtain ⟨e, he, rfl⟩ := List.mem_map.mp htoken
      rw [ofTokens_of_mem_tokenOrder he]
      exact Multiset.le_sup (mem_requested.mpr ⟨e.1, hc, he⟩)
    · rw [ofTokens_singleton_of_not_isToken htoken]
      exact bot_le
  · refine Multiset.sup_le.mpr fun s hs => ?_
    obtain ⟨c, hc, hentry⟩ := mem_requested.mp hs
    have hsingle : ofTokens [c] = s := ofTokens_of_mem_tokenOrder hentry
    exact hsingle ▸ ofTokens_singleton_le hc

/-- Going through the tokens in their order, a later one replaces an earlier one. -/
theorem ofTokens_eq_override (text : List Char) :
    ofTokens text = override text tokenOrder empty := by
  have hempty : tokenOrder.all (fun e => decide (e.2.PrevailsOver empty)) = true := by decide
  have hsorted : tokenOrder.Pairwise fun e f => f.2.PrevailsOver e.2 := by decide
  rw [override_eq_sup text
    (fun e he => of_decide_eq_true (List.all_eq_true.mp hempty e he)) hsorted, ← bot_eq_empty,
    bot_sup_eq, ofTokens_eq_sup]

/-- The request of a text is a homomorphism into the order of requests: two texts request the join
of what they request, attribute by attribute, where of alignments the centre prevails over left and
left over right, and switching off over switching on. The empty text and a character that is no
token request nothing. So neither the order of the characters nor a repeated or an unknown character
changes a request, it is empty just when there is no token, and it is what one gets by going through
the table of tokens, a later one replacing what an earlier one has requested. -/
theorem ofTokens_priorityJoin :
    (∀ s t, ofTokens (s ++ t) = ofTokens s ⊔ ofTokens t) ∧
      (∀ s t : StyleRequest,
        alignmentRank (s ⊔ t).alignment =
            max (alignmentRank s.alignment) (alignmentRank t.alignment) ∧
          switchRank (s ⊔ t).bold = max (switchRank s.bold) (switchRank t.bold) ∧
          switchRank (s ⊔ t).italic = max (switchRank s.italic) (switchRank t.italic) ∧
          switchRank (s ⊔ t).underline = max (switchRank s.underline) (switchRank t.underline)) ∧
      ofTokens [] = empty ∧
      (∀ c, ¬ IsToken c → ofTokens [c] = empty) ∧
      (∀ text, ofTokens text = override text tokenOrder empty) ∧
      (∀ s t, s.Perm t → ofTokens s = ofTokens t) ∧
      (∀ s t c, c ∈ s ++ t ∨ ¬ IsToken c → ofTokens (s ++ c :: t) = ofTokens (s ++ t)) ∧
      ∀ s, (ofTokens s).isEmpty = true ↔ ∀ c ∈ s, ¬ IsToken c := by
  refine ⟨ofTokens_append, fun s t => ⟨rank_prevailing .., rank_prevailing .., rank_prevailing ..,
    rank_prevailing ..⟩, rfl, fun c hc => ofTokens_singleton_of_not_isToken hc,
    ofTokens_eq_override, fun s t hperm => ofTokens_eq_of_mem_iff fun c _ => hperm.mem_iff,
    fun s t c hc => ofTokens_eq_of_mem_iff fun d hd => ?_, fun s => isEmpty_ofTokens⟩
  have hinserted : d ∈ s ++ c :: t ↔ d = c ∨ d ∈ s ++ t := by
    simp only [List.mem_append, List.mem_cons]
    tauto
  rw [hinserted]
  refine ⟨?_, .inr⟩
  rintro (rfl | hold)
  · exact hc.resolve_right (not_not_intro hd)
  · exact hold

/-- Centred and not bold, in any order of the arrows, with a repetition and a variation selector. -/
theorem scrambled_tokens_request :
    ofTokens ['b', '↔', '➡', 'B'] = ofTokens ['➡', 'B', '↔', 'b'] ∧
      ofTokens (['↔'] ++ '\uFE0F' :: ['b', 'B', '↔']) = ofTokens ['↔', 'b', 'B'] ∧
      ofTokens ['\uFE0F'] = empty ∧ (ofTokens ['↔', 'b', 'B']).alignment = some .center ∧
      (ofTokens ['↔', 'b', 'B']).bold = some false := by
  obtain ⟨-, -, -, hunknown, -, hperm, hinsert, -⟩ := ofTokens_priorityJoin
  refine ⟨hperm _ _ (by decide), ?_, hunknown '\uFE0F' (by decide), rfl, rfl⟩
  calc ofTokens (['↔'] ++ '\uFE0F' :: ['b', 'B', '↔'])
    _ = ofTokens (['↔'] ++ ['b', 'B', '↔']) := hinsert _ _ _ (.inr (by decide))
    _ = ofTokens (['↔', 'b', 'B'] ++ '↔' :: []) := rfl
    _ = ofTokens ['↔', 'b', 'B'] := hinsert _ _ _ (.inl (by decide))

end WorkbookTools.StyleRequest
