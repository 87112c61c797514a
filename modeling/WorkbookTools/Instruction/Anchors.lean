/-!
# The anchors of an instruction

An instruction is read in one pass. The first quote opens the content and the second one closes it.
The first address anchor counts wherever it stands, also inside the content; style and colour
anchors count after it only, the first of each kind.

A field begins after its anchor and ends before the next anchor that is both later in the order
address, style, foreground, background and further to the right.
-/

namespace WorkbookTools.Instruction

/-- The content as far as it has been read. -/
inductive Content where
  /-- No quote so far. -/
  | pending
  /-- One quote so far; the content begins at this position. -/
  | opened (start : Nat)
  /-- The content begins at the first position and ends before the second. -/
  | closed (start stop : Nat)
  deriving DecidableEq, Repr

/-- The positions of the content and of the anchors. -/
structure Anchors where
  content : Content
  address : Option Nat
  style : Option Nat
  foreground : Option Nat
  background : Option Nat
  deriving DecidableEq, Repr

namespace Anchors

/-- Nothing found yet. -/
def none : Anchors := ⟨.pending, .none, .none, .none, .none⟩

/-- What a quote at position `at` does to the content. -/
def Content.quote (position : Nat) : Content → Content
  | .pending => .opened (position + 1)
  | .opened start => .closed start position
  | .closed start stop => .closed start stop

/-- Takes in the character at the given position. -/
def step (a : Anchors) (position : Nat) (c : Char) : Anchors :=
  let a := if c = '\'' then { a with content := Content.quote position a.content } else a
  if a.address.isNone then
    if c = '@' then { a with address := some position } else a
  else if c = '#' then { a with style := a.style <|> some position }
  else if c = '$' then { a with foreground := a.foreground <|> some position }
  else if c = '%' then { a with background := a.background <|> some position }
  else a

/-- Takes in the characters from the given position on. -/
def scanFrom (a : Anchors) (position : Nat) : List Char → Anchors
  | [] => a
  | c :: rest => scanFrom (a.step position c) (position + 1) rest

def scan (s : List Char) : Anchors := scanFrom none 0 s

/-- The characters from position `start` to before `stop`. -/
def slice (s : List Char) (start stop : Nat) : List Char := (s.take stop).drop start

/-- The text after the anchor at `start`, up to the nearest of the later anchors. -/
def field (s : List Char) (start : Nat) (later : List (Option Nat)) : List Char :=
  let stop := (later.filterMap id).foldl
    (fun stop position => if start < position ∧ position < stop then position else stop) s.length
  slice s (start + 1) stop

end Anchors

end WorkbookTools.Instruction
