/-!
# Glob patterns of one component

A star stands for any text, a question mark for any character, and a bracket for one character of
its class: ranges and single characters, complemented after an exclamation mark. A closing bracket
that comes first belongs to the class, and an opening bracket that is never closed is literal.

A hyphen forms a range unless it comes first, last or right after a range. Of a range that runs
backwards both ends are dropped, together with the hyphen. An empty class has no character, and an
exclamation mark alone has them all.
-/

namespace WorkbookTools.Glob

/-- One element of a pattern. -/
inductive Token where
  /-- Any text. -/
  | many
  /-- This character. -/
  | literal (c : Char)
  /-- A character in one of the ranges, or in none of them. -/
  | oneOf (negated : Bool) (ranges : List (Char × Char))
  deriving DecidableEq, Repr

/-- The text before the first closing bracket and the text after it. -/
def untilBracket : List Char → Option (List Char × List Char)
  | [] => none
  | c :: rest =>
    if c = ']' then some ([], rest)
    else (untilBracket rest).map fun (inside, after) => (c :: inside, after)

/-- The class text after an opening bracket and what follows its closing bracket. -/
def classText? : List Char → Option (List Char × List Char)
  | '!' :: ']' :: rest =>
    (untilBracket rest).map fun (inside, after) => ('!' :: ']' :: inside, after)
  | ']' :: rest => (untilBracket rest).map fun (inside, after) => (']' :: inside, after)
  | rest => untilBracket rest

theorem untilBracket_length {s inside after : List Char}
    (h : untilBracket s = some (inside, after)) : after.length < s.length := by
  induction s generalizing inside with
  | nil => simp [untilBracket] at h
  | cons c rest ih =>
    by_cases hc : c = ']'
    · simp only [untilBracket, hc, if_pos, Option.some.injEq, Prod.mk.injEq] at h
      simp [h.2]
    · simp only [untilBracket, hc, if_neg, not_false_eq_true, Option.map_eq_some_iff,
        Prod.mk.injEq] at h
      obtain ⟨⟨inner, outer⟩, hrest, -, rfl⟩ := h
      have hlt : outer.length < rest.length := ih hrest
      simp only [List.length_cons]
      omega

theorem classText?_length {s inside after : List Char} (h : classText? s = some (inside, after)) :
    after.length < s.length := by
  unfold classText? at h
  split at h
  · rename_i rest
    obtain ⟨⟨inner, outer⟩, hrest, hpair⟩ := Option.map_eq_some_iff.1 h
    have hlt : outer.length < rest.length := untilBracket_length hrest
    simp only [Prod.mk.injEq] at hpair
    simp only [List.length_cons, ← hpair.2]
    omega
  · rename_i rest
    obtain ⟨⟨inner, outer⟩, hrest, hpair⟩ := Option.map_eq_some_iff.1 h
    have hlt : outer.length < rest.length := untilBracket_length hrest
    simp only [Prod.mk.injEq] at hpair
    simp only [List.length_cons, ← hpair.2]
    omega
  · exact untilBracket_length h

/-! ## Classes -/

/-- Cuts a class text at the hyphens that may form a range. At least `skip` characters precede the
first cut, and two lie between neighbouring cuts. -/
def cutHyphens (skip : Nat) : List Char → List (List Char)
  | [] => [[]]
  | c :: rest =>
    match skip with
    | 0 => if c = '-' then [] :: cutHyphens 2 rest else
      match cutHyphens 0 rest with
      | [] => [[c]]
      | chunk :: chunks => (c :: chunk) :: chunks
    | skip + 1 =>
      match cutHyphens skip rest with
      | [] => [[c]]
      | chunk :: chunks => (c :: chunk) :: chunks

/-- A hyphen at the end of the class is literal. -/
def keepLastHyphen : List (List Char) → List (List Char)
  | [] => []
  | [chunk, []] => [chunk ++ ['-']]
  | chunk :: chunks => chunk :: keepLastHyphen chunks

/-- Joins two chunks whose hyphen forms a range that runs backwards, dropping both ends. -/
def dropBackward : List (List Char) → List (List Char)
  | [] => []
  | chunk :: chunks =>
    match dropBackward chunks with
    | [] => [chunk]
    | next :: others =>
      match chunk.getLast?, next with
      | some low, high :: tail =>
        if high < low then (chunk.dropLast ++ tail) :: others else chunk :: next :: others
      | _, _ => chunk :: next :: others

/-- The ranges of a row of chunks with a range between each one and the next. -/
def rangesOf : List (List Char) → List (Char × Char)
  | [] => []
  | chunk :: chunks =>
    match chunk.getLast?, chunks.head?.bind List.head? with
    | some low, some high => chunk.map (fun c => (c, c)) ++ (low, high) :: rangesOf chunks
    | none, some _ => ('-', '-') :: rangesOf chunks
    | _, none => chunk.map (fun c => (c, c)) ++ rangesOf chunks

def classToken (text : List Char) : Token :=
  let chunks :=
    if '-' ∈ text then
      dropBackward (keepLastHyphen (cutHyphens (if text.head? = some '!' then 2 else 1) text))
    else [text]
  match chunks with
  | ('!' :: chunk) :: others => .oneOf true (rangesOf (chunk :: others))
  | _ => .oneOf false (rangesOf chunks)

/-! ## Patterns -/

def tokens (pattern : List Char) : List Token :=
  match pattern with
  | [] => []
  | '*' :: rest => .many :: tokens rest
  | '?' :: rest => .oneOf true [] :: tokens rest
  | '[' :: rest =>
    match h : classText? rest with
    | some (inside, after) =>
      have : after.length < rest.length + 1 := Nat.lt_succ_of_lt (classText?_length h)
      classToken inside :: tokens after
    | none => .literal '[' :: tokens rest
  | c :: rest => .literal c :: tokens rest
termination_by pattern.length

/-- The class admits the character. -/
def Token.admits (c : Char) : Token → Bool
  | many => true
  | literal d => c = d
  | oneOf negated ranges => (ranges.any fun range => range.1 ≤ c ∧ c ≤ range.2) != negated

/-- Whether one of the flags from each position on is set. -/
def anyFrom : List Bool → List Bool
  | [] => []
  | flag :: rest =>
    let later := anyFrom rest
    (flag || later.headD false) :: later

/-- Whether one character and then what the flags stand for match, from each position on. -/
def oneThen (token : Token) : List Char → List Bool → List Bool
  | c :: rest, _ :: flags => (token.admits c && flags.headD false) :: oneThen token rest flags
  | _, _ => [false]

/-- Whether a row of tokens matches the rest of the text, from each position on up to the end. -/
def matchesFrom (s : List Char) : List Token → List Bool
  | [] => List.replicate s.length false ++ [true]
  | .many :: more => anyFrom (matchesFrom s more)
  | token :: more => oneThen token s (matchesFrom s more)

/-- A row of tokens matches the whole text. -/
def matchTokens (tokens : List Token) (s : List Char) : Bool := (matchesFrom s tokens).headD false

def matchText (pattern text : String) : Bool :=
  matchTokens (tokens pattern.toList) text.toList

end WorkbookTools.Glob
