/-!
# Compressed data

Compressed data consist of blocks of bits. A block holds bytes as they are, or codes for bytes and
for repetitions of what came before; the codes are fixed, or given by their lengths at the beginning
of the block. Data that break off give what has been read by then.
-/

namespace WorkbookTools.Archive

/-- What is wrong with compressed data. -/
inductive InflateFault where
  | blockKind
  | storedLengths
  | tooManySymbols
  | lengthsCode
  | repeatedLength
  | noEndOfBlock
  | literalCode
  | distanceCode
  | literalSymbol
  | distanceSymbol
  | distanceTooFar
  deriving DecidableEq, Repr

def InflateFault.wording : InflateFault → String
  | blockKind => "invalid block type"
  | storedLengths => "invalid stored block lengths"
  | tooManySymbols => "too many length or distance symbols"
  | lengthsCode => "invalid code lengths set"
  | repeatedLength => "invalid bit length repeat"
  | noEndOfBlock => "invalid code -- missing end-of-block"
  | literalCode => "invalid literal/lengths set"
  | distanceCode => "invalid distances set"
  | literalSymbol => "invalid literal/length code"
  | distanceSymbol => "invalid distance code"
  | distanceTooFar => "invalid distance too far back"

/-- The bits that are still to be read, and the bytes that came out, in reverse. -/
structure Inflation where
  bits : List Bool
  output : List Nat

/-- Why reading stops. -/
inductive InflateStop where
  /-- The data break off. -/
  | exhausted
  | fault (f : InflateFault)

/-- A computation that reads bits and puts out bytes. -/
abbrev Inflater := ExceptT InflateStop (StateM Inflation)

namespace Inflater

def fail {α : Type} (f : InflateFault) : Inflater α := throw (.fault f)

def bit : Inflater Bool := do
  let s ← get
  match s.bits with
  | [] => throw .exhausted
  | b :: rest =>
    set { s with bits := rest }
    pure b

/-- The number in the given count of bits, the least significant bit first. -/
def number : Nat → Inflater Nat
  | 0 => pure 0
  | count + 1 => do
    let low ← bit
    let high ← number count
    pure (low.toNat + 2 * high)

def emit (byte : Nat) : Inflater Unit := modify fun s => { s with output := byte :: s.output }

/-! ## Codes -/

/-- How many symbols have codes of a length. -/
def countOf (lengths : List Nat) (length : Nat) : Nat := lengths.count length

def longest (lengths : List Nat) : Nat := lengths.foldl max 0

/-- How many more codes of the given length there could be. -/
def spareCodes (lengths : List Nat) : Nat → Int
  | 0 => 1
  | length + 1 => 2 * spareCodes lengths length - countOf lengths (length + 1)

/-- The lengths belong to a code. A code without symbols is one, and a single code of one bit may do
unless the code has to be complete. -/
def isCode (complete : Bool) (lengths : List Nat) : Bool :=
  let spare := (List.range' 1 (longest lengths)).map (spareCodes lengths)
  longest lengths = 0 ||
    (spare.all (0 ≤ ·) &&
      (spare.getLast? = some 0 || (!complete && longest lengths = 1)))

def symbolsOf (lengths : List Nat) (length : Nat) : List Nat :=
  lengths.zipIdx.filterMap fun (l, symbol) => if l = length then some symbol else none

/-- The symbol of the next code; `first` is the first code of the current length and `code` what has
been read of it. -/
def symbolFrom (lengths : List Nat) (first code : Nat) : List Nat → Inflater (Option Nat)
  | [] => pure none
  | length :: longer => do
    let code := 2 * code + (← bit).toNat
    let first := 2 * first
    match (symbolsOf lengths length)[code - first]? with
    | some symbol => pure (some symbol)
    | none => symbolFrom lengths (first + countOf lengths length) code longer

/-- The symbol of the next code, if there is one. -/
def symbol (lengths : List Nat) : Inflater (Option Nat) :=
  symbolFrom lengths 0 0 (List.range' 1 (max 1 (longest lengths)))

/-! ## Blocks -/

/-- Repetitions by their symbols from 257 on: the least length and how many bits are added to it. -/
def lengthBases : List (Nat × Nat) :=
  [(3, 0), (4, 0), (5, 0), (6, 0), (7, 0), (8, 0), (9, 0), (10, 0), (11, 1), (13, 1), (15, 1),
   (17, 1), (19, 2), (23, 2), (27, 2), (31, 2), (35, 3), (43, 3), (51, 3), (59, 3), (67, 4),
   (83, 4), (99, 4), (115, 4), (131, 5), (163, 5), (195, 5), (227, 5), (258, 0)]

/-- Distances by their symbols: the least one and how many bits are added to it. -/
def distanceBases : List (Nat × Nat) :=
  [(1, 0), (2, 0), (3, 0), (4, 0), (5, 1), (7, 1), (9, 2), (13, 2), (17, 3), (25, 3), (33, 4),
   (49, 4), (65, 5), (97, 5), (129, 6), (193, 6), (257, 7), (385, 7), (513, 8), (769, 8), (1025, 9),
   (1537, 9), (2049, 10), (3073, 10), (4097, 11), (6145, 11), (8193, 12), (12289, 12), (16385, 13),
   (24577, 13)]

/-- Puts bytes out that came out before, at a distance. -/
def copy (distance : Nat) : Nat → Inflater Unit
  | 0 => pure ()
  | length + 1 => do
    match (← get).output[distance - 1]? with
    | some byte =>
      emit byte
      copy distance length
    | none => fail .distanceTooFar

/-- A repetition of the given symbol. -/
def repetition (distances : List Nat) (s : Nat) : Inflater Unit := do
  let some (base, more) := lengthBases[s - 257]? | fail .literalSymbol
  let length := base + (← number more)
  let some d ← symbol distances | fail .distanceSymbol
  let some (least, extra) := distanceBases[d]? | fail .distanceSymbol
  let distance := least + (← number extra)
  copy distance length

/-- Reads codes up to the end of a block. Each one takes a bit at least, which bounds their
number. -/
def codes (literals distances : List Nat) : Nat → Inflater Unit
  | 0 => throw .exhausted
  | bound + 1 => do
    let some s ← symbol literals | fail .literalSymbol
    if s = 256 then pure ()
    else
      if s < 256 then emit s else repetition distances s
      codes literals distances bound

/-- Reads bytes that are given as they are. -/
def bytes : Nat → Inflater Unit
  | 0 => pure ()
  | count + 1 => do
    emit (← number 8)
    bytes count

/-- A block of bytes as they are. It begins at a full byte. -/
def storedBlock : Inflater Unit := do
  modify fun s => { s with bits := s.bits.drop (s.bits.length % 8) }
  let length ← number 16
  let complement ← number 16
  if length + complement ≠ 0xffff then fail .storedLengths
  bytes length

def fixedLiterals : List Nat :=
  List.replicate 144 8 ++ List.replicate 112 9 ++ List.replicate 24 7 ++ List.replicate 8 8

def fixedDistances : List Nat := List.replicate 32 5

/-- The order in which the lengths of the codes of lengths are given. -/
def lengthOrder : List Nat :=
  [16, 17, 18, 0, 8, 7, 9, 6, 10, 5, 11, 4, 12, 3, 13, 2, 14, 1, 15]

/-- Numbers of three bits each. -/
def smallNumbers : Nat → Inflater (List Nat)
  | 0 => pure []
  | count + 1 => do
    let n ← number 3
    let others ← smallNumbers count
    pure (n :: others)

/-- What a symbol of the code of lengths says: a length and how often it is given. -/
def lengthRun (before : Option Nat) (s : Nat) : Inflater (Nat × Nat) := do
  if s < 16 then pure (s, 1)
  else if s = 16 then
    let some length := before | fail .repeatedLength
    pure (length, 3 + (← number 2))
  else if s = 17 then pure (0, 3 + (← number 3))
  else pure (0, 11 + (← number 7))

/-- Reads lengths until there are as many as wanted; those that are there are in reverse. -/
def lengthsFrom (code : List Nat) (wanted : Nat) (found : List Nat) : Nat → Inflater (List Nat)
  | 0 => throw .exhausted
  | bound + 1 => do
    if wanted ≤ found.length then pure found.reverse
    else
      let s ← symbol code
      let (length, count) ← lengthRun found.head? (s.getD 0)
      if wanted < found.length + count then fail .repeatedLength
      lengthsFrom code wanted (List.replicate count length ++ found) bound

/-- A block whose codes are given by their lengths. -/
def dynamicBlock (bound : Nat) : Inflater Unit := do
  let literalCount := 257 + (← number 5)
  let distanceCount := 1 + (← number 5)
  let codeCount := 4 + (← number 4)
  if 286 < literalCount ∨ 30 < distanceCount then fail .tooManySymbols
  let given := lengthOrder.zip (← smallNumbers codeCount)
  let code := (List.range 19).map fun s => (given.lookup s).getD 0
  unless isCode true code do fail .lengthsCode
  let lengths ← lengthsFrom code (literalCount + distanceCount) [] bound
  let literals := lengths.take literalCount
  let distances := lengths.drop literalCount
  if literals.getD 256 0 = 0 then fail .noEndOfBlock
  unless isCode false literals do fail .literalCode
  unless isCode false distances do fail .distanceCode
  codes literals distances bound

/-- Reads blocks up to the last one. -/
def blocks : Nat → Inflater Unit
  | 0 => throw .exhausted
  | bound + 1 => do
    let last ← bit
    match ← number 2 with
    | 0 => storedBlock
    | 1 => codes fixedLiterals fixedDistances (bound + 1)
    | 2 => dynamicBlock (bound + 1)
    | _ => fail .blockKind
    unless last do blocks bound

end Inflater

/-- The bits of bytes, the least significant bit of each byte first. -/
def bitsOf (bytes : List Nat) : List Bool :=
  bytes.flatMap fun b => (List.range 8).map fun i => b.testBit i

/-- The bytes that come out of compressed data, and whether the data are complete. -/
def inflate (bytes : List Nat) : Except InflateFault (List Nat × Bool) :=
  let bits := bitsOf bytes
  let (outcome, s) := (Inflater.blocks (bits.length + 1)).run.run ⟨bits, []⟩
  match outcome with
  | .ok () => .ok (s.output.reverse, true)
  | .error .exhausted => .ok (s.output.reverse, false)
  | .error (.fault f) => .error f

end WorkbookTools.Archive
