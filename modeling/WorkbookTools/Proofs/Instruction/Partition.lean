import Mathlib.Data.List.Basic
import WorkbookTools.Batch

/-!
# The accepted and the rejected instructions of a batch

Every instruction of a batch is read on its own, with its position. What comes of it is an edit or a
rejection, and a partition tells the two apart without changing their order.

Main statement: `accounts_partition`, a partition has exactly one item for each position.
-/

namespace WorkbookTools

namespace Instruction

/-! ## Positions -/

/-- The position that an edit or a rejection carries. -/
def position : Except Rejection CellEdit → Nat
  | .ok e => e.index
  | .error k => k.index

@[simp] theorem position_parse (i : Nat) (text : String) : position (parse i text) = i := by
  unfold parse
  split
  · rfl
  · split <;> rfl

theorem index_of_parse {i : Nat} {text : String} {e : CellEdit} (h : parse i text = .ok e) :
    e.index = i := by
  have hposition := position_parse i text
  rwa [h] at hposition

/-- A rejection repeats what was read. -/
theorem eq_of_parse_error {i : Nat} {text : String} {k : Rejection}
    (h : parse i text = .error k) : k.index = i ∧ k.instruction = text := by
  unfold parse at h
  split at h
  · cases h
    exact ⟨rfl, rfl⟩
  · split at h <;> cases h
    exact ⟨rfl, rfl⟩

theorem map_position_parseAll (instructions : List String) :
    (parseAll instructions).map position = List.range instructions.length := by
  refine List.ext_getElem (by simp [parseAll]) fun i _ _ => ?_
  simp [parseAll]

/-- The results of a batch come in the order of its instructions. -/
theorem parseAll_pairwise (instructions : List String) :
    (parseAll instructions).Pairwise fun a b => position a < position b := by
  rw [← List.pairwise_map, map_position_parseAll]
  exact List.pairwise_lt_range

theorem mem_parseAll {instructions : List String} {outcome : Except Rejection CellEdit} :
    outcome ∈ parseAll instructions ↔
      ∃ i text, instructions[i]? = some text ∧ parse i text = outcome := by
  rw [parseAll, List.mem_mapIdx]
  constructor
  · rintro ⟨i, hi, rfl⟩
    exact ⟨i, _, List.getElem?_eq_getElem hi, rfl⟩
  · rintro ⟨i, text, htext, rfl⟩
    obtain ⟨hi, rfl⟩ := List.getElem?_eq_some_iff.mp htext
    exact ⟨i, hi, rfl⟩

/-! ## Telling edits from rejections -/

variable {results : List (Except Rejection CellEdit)}

theorem mem_accepted {e : CellEdit} : e ∈ accepted results ↔ .ok e ∈ results := by
  unfold accepted
  rw [List.mem_filterMap]
  constructor
  · rintro ⟨outcome, hmem, houtcome⟩
    cases outcome with
    | error k => cases houtcome
    | ok found =>
      cases houtcome
      exact hmem
  · exact fun hmem => ⟨_, hmem, rfl⟩

theorem mem_rejected {k : Rejection} : k ∈ rejected results ↔ .error k ∈ results := by
  unfold rejected
  rw [List.mem_filterMap]
  constructor
  · rintro ⟨outcome, hmem, houtcome⟩
    cases outcome with
    | ok e => cases houtcome
    | error found =>
      cases houtcome
      exact hmem
  · exact fun hmem => ⟨_, hmem, rfl⟩

theorem accepted_pairwise (h : results.Pairwise fun a b => position a < position b) :
    (accepted results).Pairwise fun a b => a.index < b.index := by
  refine h.filterMap _ fun a b hlt e he e' he' => ?_
  cases a <;> cases he
  cases b <;> cases he'
  exact hlt

theorem rejected_pairwise (h : results.Pairwise fun a b => position a < position b) :
    (rejected results).Pairwise fun a b => a.index < b.index := by
  refine h.filterMap _ fun a b hlt k hk k' hk' => ?_
  cases a <;> cases hk
  cases b <;> cases hk'
  exact hlt

/-- No result is lost, and none is taken twice. -/
theorem positions_perm (results : List (Except Rejection CellEdit)) :
    ((accepted results).map (·.index) ++ (rejected results).map (·.index)).Perm
      (results.map position) := by
  induction results with
  | nil => exact List.Perm.nil
  | cons outcome rest ih =>
    cases outcome with
    | ok e => exact ih.cons e.index
    | error k => exact List.perm_middle.trans (ih.cons k.index)

end Instruction

/-! ## The account of a batch -/

open Instruction

/-- The edits and the rejections are what comes of the single instructions: the positions of both
rise, and together they are those of all instructions. -/
structure Partition.Accounts (parts : Partition) (instructions : List String) : Prop where
  edits_rise : parts.edits.Pairwise fun a b => a.index < b.index
  skipped_rise : parts.skipped.Pairwise fun a b => a.index < b.index
  positions : (parts.edits.map (·.index) ++ parts.skipped.map (·.index)).Perm
    (List.range instructions.length)
  mem_edits : ∀ e, e ∈ parts.edits ↔
    ∃ text, instructions[e.index]? = some text ∧ parse e.index text = .ok e
  mem_skipped : ∀ k, k ∈ parts.skipped ↔
    instructions[k.index]? = some k.instruction ∧ parse k.index k.instruction = .error k

/-- A partition accounts for every instruction of its batch, whatever the others are. -/
theorem accounts_partition (instructions : List String) :
    (partition instructions).Accounts instructions := by
  constructor
  · exact accepted_pairwise (parseAll_pairwise instructions)
  · exact rejected_pairwise (parseAll_pairwise instructions)
  · rw [← map_position_parseAll]
    exact positions_perm _
  · intro e
    rw [partition, mem_accepted, mem_parseAll]
    constructor
    · rintro ⟨i, text, htext, hparse⟩
      obtain rfl := index_of_parse hparse
      exact ⟨text, htext, hparse⟩
    · rintro ⟨text, htext, hparse⟩
      exact ⟨e.index, text, htext, hparse⟩
  · intro k
    rw [partition, mem_rejected, mem_parseAll]
    constructor
    · rintro ⟨i, text, htext, hparse⟩
      obtain ⟨rfl, rfl⟩ := eq_of_parse_error hparse
      exact ⟨htext, hparse⟩
    · rintro ⟨htext, hparse⟩
      exact ⟨k.index, k.instruction, htext, hparse⟩

end WorkbookTools
