import WorkbookTools.Tool.Input

/-!
# Accepted requests

A check that passes has passed in all of its parts. The request that the input of a tool stands for
concerns the workbook for which it was made.
-/

namespace WorkbookTools

variable {α β : Type}

namespace Checked

theorem result_ok {model : String} {x : Checked α} {a : α} :
    x.result model = .ok a ↔ x = .valid a := by
  cases x <;> simp [result]

theorem map_valid {f : α → β} {x : Checked α} {b : β} :
    f <$> x = .valid b ↔ ∃ a, x = .valid a ∧ f a = b := by
  cases x <;> simp [Functor.map, apply]

theorem seq_valid {f : Checked (α → β)} {x : Checked α} {b : β} :
    f <*> x = .valid b ↔ ∃ g a, f = .valid g ∧ x = .valid a ∧ g a = b := by
  cases f <;> cases x <;> simp [Seq.seq, apply]

theorem andThen_valid {x : Checked α} {f : α → Checked β} {b : β} :
    x.andThen f = .valid b ↔ ∃ a, x = .valid a ∧ f a = .valid b := by
  cases x <;> simp [andThen]

end Checked

namespace Tool

open Checked

variable {p : Path}

theorem CreateInput.request_path {i : CreateInput} {onConflict : Checked ConflictPolicy}
    {r : CreateRequest} (h : i.request onConflict = .ok r) : r.path = Path.ofText i.path := by
  obtain ⟨policy, -, rfl⟩ := map_valid.mp (result_ok.mp h)
  rfl

theorem GetRangeInput.request_path {i : GetRangeInput} {r : ReadRangeRequest}
    (h : i.request p = .ok r) : r.path = p := by
  obtain ⟨sheet, -, h⟩ := andThen_valid.mp (result_ok.mp h)
  obtain ⟨rectangle, -, h⟩ := andThen_valid.mp h
  cases h
  rfl

theorem SetRangeInput.request_path {i : SetRangeInput} {autoFormula : Checked Bool}
    {r : WriteRangeRequest} (h : i.request p autoFormula = .ok r) : r.path = p := by
  obtain ⟨g, auto, hg, -, rfl⟩ := seq_valid.mp (result_ok.mp h)
  obtain ⟨f, values, hf, -, rfl⟩ := seq_valid.mp hg
  obtain ⟨sheet, -, rfl⟩ := map_valid.mp hf
  rfl

theorem SetCellsInput.request_path {i : SetCellsInput} {engine : Checked EngineChoice}
    {autoFormula : Checked Bool} {r : SetCellsRequest}
    (h : i.request p engine autoFormula = .ok r) : r.path = p := by
  obtain ⟨g, auto, hg, -, rfl⟩ := seq_valid.mp (result_ok.mp h)
  obtain ⟨f, choice, hf, -, rfl⟩ := seq_valid.mp hg
  obtain ⟨sheet, -, rfl⟩ := map_valid.mp hf
  rfl

end Tool

end WorkbookTools
