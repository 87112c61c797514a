import WorkbookTools.Instruction.Anchors

/-!
# What the pass over an instruction records

The pass keeps one record for each anchor and one for the content. This module says what each record
holds at the end in terms of first positions in the text.

* `position_scanFrom`: once the address anchor is known, the record of a later anchor is the first
  position of its character from there on.
* `content_scan`: the content lies between the first two quotes, or is not closed.
* `scan_of_split`: the records after a whole text, cut at its first address anchor.
-/

namespace WorkbookTools.Instruction

/-- The fields that follow the address, in their order. -/
inductive TailField where
  | style
  | foreground
  | background
  deriving DecidableEq, Repr

/-- The character that introduces a field. -/
def TailField.anchor : TailField → Char
  | style => '#'
  | foreground => '$'
  | background => '%'

namespace Anchors

def position (a : Anchors) : TailField → Option Nat
  | .style => a.style
  | .foreground => a.foreground
  | .background => a.background

/-! ## One step -/

theorem content_step (a : Anchors) (p : Nat) (c : Char) :
    (a.step p c).content = if c = '\'' then Content.quote p a.content else a.content := by
  grind [step]

theorem address_step (a : Anchors) (p : Nat) (c : Char) :
    (a.step p c).address = (a.address <|> if c = '@' then some p else .none) := by
  cases h : a.address <;> simp only [step] <;> grind

theorem position_step {a : Anchors} (h : a.address ≠ .none) (k : TailField) (p : Nat) (c : Char) :
    (a.step p c).position k = (a.position k <|> if c = k.anchor then some p else .none) := by
  obtain ⟨address, ha⟩ := Option.ne_none_iff_exists'.mp h
  cases k <;> simp only [step, position, TailField.anchor] <;> grind

theorem position_step_before {a : Anchors} (h : a.address = .none) (k : TailField) (p : Nat)
    (c : Char) : (a.step p c).position k = a.position k := by
  cases k <;> simp only [step, position] <;> grind

/-! ## A whole pass -/

theorem scanFrom_append (a : Anchors) (p : Nat) (u v : List Char) :
    scanFrom a p (u ++ v) = scanFrom (scanFrom a p u) (p + u.length) v := by
  induction u generalizing a p with
  | nil => rfl
  | cons c u ih =>
    simp only [List.cons_append, scanFrom, ih, List.length_cons]
    congr 1
    omega

/-- A record that every step sets at its own character, unless it is set already, ends as the first
position of that character. `Good` is what the steps need and keep. -/
theorem record_scanFrom (record : Anchors → Option Nat) (mark : Char) (Good : Anchors → Prop)
    (hgood : ∀ a p c, Good a → Good (a.step p c))
    (hstep : ∀ a p c, Good a →
      record (a.step p c) = (record a <|> if c = mark then some p else .none))
    (s : List Char) {a : Anchors} (p : Nat) (ha : Good a) :
    record (scanFrom a p s) = (record a <|> (s.idxOf? mark).map (p + ·)) := by
  induction s generalizing a p with
  | nil => simp [scanFrom]
  | cons c s ih =>
    have hrest := ih (p + 1) (hgood a p c ha)
    rw [scanFrom, hrest, hstep a p c ha, List.idxOf?_cons]
    cases record a with
    | some q => simp
    | none =>
      by_cases hc : c = mark
      · simp [hc]
      · cases s.idxOf? mark <;> simp [hc]
        omega

theorem address_scanFrom (a : Anchors) (p : Nat) (s : List Char) :
    (scanFrom a p s).address = (a.address <|> (s.idxOf? '@').map (p + ·)) :=
  record_scanFrom address '@' (fun _ => True) (fun _ _ _ _ => trivial)
    (fun a p c _ => address_step a p c) s p trivial

theorem address_step_ne_none {a : Anchors} (h : a.address ≠ .none) (p : Nat) (c : Char) :
    (a.step p c).address ≠ .none := by
  obtain ⟨address, ha⟩ := Option.ne_none_iff_exists'.mp h
  simp [address_step, ha]

/-- After the address anchor the record of a field is the first position of its anchor. -/
theorem position_scanFrom {a : Anchors} (h : a.address ≠ .none) (k : TailField) (p : Nat)
    (s : List Char) :
    (scanFrom a p s).position k = (a.position k <|> (s.idxOf? k.anchor).map (p + ·)) :=
  record_scanFrom (fun a => a.position k) k.anchor (fun a => a.address ≠ .none)
    (fun _ p c h => address_step_ne_none h p c) (fun _ p c h => position_step h k p c) s p h

theorem position_scanFrom_before {a : Anchors} (h : a.address = .none) (k : TailField) (p : Nat)
    {s : List Char} (hs : '@' ∉ s) : (scanFrom a p s).position k = a.position k := by
  induction s generalizing a p with
  | nil => rfl
  | cons c s ih =>
    obtain ⟨hc, hs⟩ := not_or.mp (mt List.mem_cons.mpr hs)
    have hnext : (a.step p c).address = .none := by simp [address_step, h, Ne.symm hc]
    rw [scanFrom, ih hnext (p + 1) hs, position_step_before h]

/-! ## The content -/

theorem content_scanFrom_closed {a : Anchors} {start stop : Nat}
    (h : a.content = .closed start stop) (p : Nat) (s : List Char) :
    (scanFrom a p s).content = .closed start stop := by
  induction s generalizing a p with
  | nil => exact h
  | cons c s ih =>
    rw [scanFrom]
    apply ih
    rw [content_step, h]
    split <;> rfl

theorem content_scanFrom_opened {a : Anchors} {start : Nat} (h : a.content = .opened start)
    (p : Nat) (s : List Char) :
    (scanFrom a p s).content =
      match s.idxOf? '\'' with
      | .none => .opened start
      | some k => .closed start (p + k) := by
  induction s generalizing a p with
  | nil => simp [scanFrom, h]
  | cons c s ih =>
    rw [scanFrom, List.idxOf?_cons]
    by_cases hc : c = '\''
    · have hnext : (a.step p c).content = .closed start p := by
        simp [content_step, hc, h, Content.quote]
      rw [content_scanFrom_closed hnext]
      simp [hc]
    · have hnext : (a.step p c).content = .opened start := by simp [content_step, hc, h]
      rw [ih hnext]
      cases s.idxOf? '\'' <;> simp [hc]
      omega

/-- The content lies between the first quote and the next one. -/
theorem content_scanFrom_pending {a : Anchors} (h : a.content = .pending) (p : Nat)
    (s : List Char) :
    (scanFrom a p s).content =
      match s.idxOf? '\'' with
      | .none => .pending
      | some k =>
        match (s.drop (k + 1)).idxOf? '\'' with
        | .none => .opened (p + k + 1)
        | some m => .closed (p + k + 1) (p + k + 1 + m) := by
  induction s generalizing a p with
  | nil => simp [scanFrom, h]
  | cons c s ih =>
    rw [scanFrom, List.idxOf?_cons]
    by_cases hc : c = '\''
    · have hnext : (a.step p c).content = .opened (p + 1) := by
        simp [content_step, hc, h, Content.quote]
      rw [content_scanFrom_opened hnext]
      simp [hc]
    · have hnext : (a.step p c).content = .pending := by simp [content_step, hc, h]
      rw [ih hnext]
      cases s.idxOf? '\'' with
      | none => simp [hc]
      | some k =>
        simp only [hc, beq_iff_eq, if_false, Option.map_some, List.drop_succ_cons]
        cases (s.drop (k + 1)).idxOf? '\'' <;> simp <;> omega

theorem content_scan (s : List Char) :
    (scan s).content =
      match s.idxOf? '\'' with
      | .none => .pending
      | some k =>
        match (s.drop (k + 1)).idxOf? '\'' with
        | .none => .opened (k + 1)
        | some m => .closed (k + 1) (k + 1 + m) := by
  rw [scan, content_scanFrom_pending rfl]
  simp only [Nat.zero_add]

/-! ## A text cut at its address anchor -/

theorem address_scan (s : List Char) : (scan s).address = s.idxOf? '@' := by
  simp [scan, address_scanFrom, none]

/-- The records of a text whose first address anchor stands between `u` and `t`. -/
theorem scan_of_split {u t : List Char} (hu : '@' ∉ u) (k : TailField) :
    (scan (u ++ '@' :: t)).address = some u.length ∧
      (scan (u ++ '@' :: t)).position k = (t.idxOf? k.anchor).map (u.length + 1 + ·) := by
  have hbefore : (scanFrom none 0 u).address = .none := by
    simp [address_scanFrom, none, List.idxOf?_eq_none_iff.mpr hu]
  have hanchor : ((scanFrom none 0 u).step u.length '@').address = some u.length := by
    simp [address_step, hbefore]
  have hsplit : scan (u ++ '@' :: t) =
      scanFrom ((scanFrom none 0 u).step u.length '@') (u.length + 1) t := by
    rw [scan, scanFrom_append, scanFrom, Nat.zero_add]
  have hempty : ((scanFrom none 0 u).step u.length '@').position k = .none := by
    rw [position_step_before hbefore, position_scanFrom_before rfl k 0 hu]
    cases k <;> rfl
  constructor
  · rw [hsplit, address_scanFrom, hanchor]
    rfl
  · rw [hsplit, position_scanFrom (by rw [hanchor]; exact Option.some_ne_none _), hempty]
    simp

end Anchors

end WorkbookTools.Instruction
