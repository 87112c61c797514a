import WorkbookTools.Color

/-!
# Colours that are written and read again

Each channel is written as two hexadecimal digits, from which it is read again. Of all texts, only
those of six ASCII hexadecimal digits are read; they are what is written, up to the case of letters.

* `ofText_hex`: reading what has been written.
* `exists_ofDigits?`, `isSixDigits_of_ofDigits?`: the texts that are read.
* `ofText_exact`: what every text stands for.
-/

namespace WorkbookTools.Color

/-! ## Written colours -/

theorem hexDigitValue?_hexDigit {n : Nat} (h : n < 16) : hexDigitValue? (hexDigit n) = some n := by
  have hall : ∀ n : Fin 16, hexDigitValue? (hexDigit n) = some n.val := by decide
  exact hall ⟨n, h⟩

theorem isAlphanum_hexDigit {n : Nat} (h : n < 16) : (hexDigit n).isAlphanum = true := by
  have hall : ∀ n : Fin 16, (hexDigit n).isAlphanum = true := by decide
  exact hall ⟨n, h⟩

theorem channel?_digits (channel : UInt8) :
    channel? (hexDigit (channel.toNat / 16)) (hexDigit (channel.toNat % 16)) = some channel := by
  have hbound : channel.toNat < 256 := channel.toNat_lt
  have hvalue : 16 * (channel.toNat / 16) + channel.toNat % 16 = channel.toNat := by omega
  rw [channel?, hexDigitValue?_hexDigit (by omega), hexDigitValue?_hexDigit (by omega)]
  simp only [Option.bind_eq_bind, Option.bind_some, hvalue, UInt8.ofNat_toNat]
  rfl

/-- A colour is read from its hexadecimal digits. -/
theorem ofText_hex (c : Color) : ofText c.hex = c := by
  rw [ofText, hex, String.toList_ofList]
  simp only [channelDigits, List.cons_append, List.nil_append, ofDigits?, channel?_digits]
  rfl

theorem isAlphanum_of_mem_hex {c : Color} {x : Char} (h : x ∈ c.hex.toList) :
    x.isAlphanum = true := by
  have hchannel : ∀ channel : UInt8, x ∈ channelDigits channel → x.isAlphanum = true := by
    intro channel hx
    have hbound : channel.toNat < 256 := channel.toNat_lt
    simp only [channelDigits, List.mem_cons, List.not_mem_nil, or_false] at hx
    rcases hx with rfl | rfl
    · exact isAlphanum_hexDigit (by omega)
    · exact isAlphanum_hexDigit (by omega)
  rw [hex, String.toList_ofList, List.mem_append, List.mem_append] at h
  rcases h with (h | h) | h <;> exact hchannel _ h

/-! ## Texts that are read -/

/-- The ASCII hexadecimal digits, those above nine in either case. -/
def hexDigits : List Char := "0123456789ABCDEFabcdef".toList

/-- The text consists of exactly six ASCII hexadecimal digits. -/
def IsSixDigits (text : String) : Prop := text.length = 6 ∧ ∀ c ∈ text.toList, c ∈ hexDigits

instance (text : String) : Decidable (IsSixDigits text) :=
  @instDecidableAnd _ _ (Nat.decEq _ _) (List.decidableBAll _ _)

/-- The value of a digit is written as the capital of the digit. -/
theorem exists_hexDigitValue? {c : Char} (h : c ∈ hexDigits) :
    ∃ n < 16, hexDigitValue? c = some n ∧ hexDigit n = c.toUpper := by
  have hall : ∀ i : Fin hexDigits.length, ∃ n < 16,
      hexDigitValue? hexDigits[i] = some n ∧ hexDigit n = hexDigits[i].toUpper := by
    decide +kernel
  obtain ⟨i, hi, rfl⟩ := List.getElem_of_mem h
  exact hall ⟨i, hi⟩

theorem mem_hexDigits_of_value {c : Char} {n : Nat} (h : hexDigitValue? c = some n) :
    c ∈ hexDigits := by
  have hall : ∀ code < 103, 48 ≤ code ∧ code ≤ 57 ∨ 65 ≤ code ∧ code ≤ 70 ∨ 97 ≤ code →
      Char.ofNat code ∈ hexDigits := by decide
  have hrange : 48 ≤ c.toNat ∧ c.toNat ≤ 57 ∨ 65 ≤ c.toNat ∧ c.toNat ≤ 70 ∨
      97 ≤ c.toNat ∧ c.toNat ≤ 102 := by
    unfold hexDigitValue? at h
    split at h
    · next hdecimal => exact .inl hdecimal
    · split at h
      · next hcapital => exact .inr (.inl hcapital)
      · split at h
        · next hsmall => exact .inr (.inr hsmall)
        · cases h
  rw [← Char.ofNat_toNat c]
  exact hall c.toNat (by omega) (by omega)

/-- Two digits are a channel, which is written as their capitals. -/
theorem exists_channel? {high low : Char} (hhigh : high ∈ hexDigits) (hlow : low ∈ hexDigits) :
    ∃ channel, channel? high low = some channel ∧
      channelDigits channel = [high.toUpper, low.toUpper] := by
  obtain ⟨h, hlt, hvalue, hcapital⟩ := exists_hexDigitValue? hhigh
  obtain ⟨l, llt, lvalue, lcapital⟩ := exists_hexDigitValue? hlow
  have hread : channel? high low = some (UInt8.ofNat (16 * h + l)) := by
    rw [channel?, hvalue, lvalue]
    rfl
  have hbyte : 16 * h + l < 256 := by omega
  have hnat : (UInt8.ofNat (16 * h + l)).toNat = 16 * h + l := UInt8.toNat_ofNat_of_lt hbyte
  have hdiv : (16 * h + l) / 16 = h := by omega
  have hmod : (16 * h + l) % 16 = l := by omega
  refine ⟨_, hread, ?_⟩
  rw [channelDigits, hnat, hdiv, hmod, hcapital, lcapital]

theorem mem_hexDigits_of_channel? {high low : Char} {channel : UInt8}
    (h : channel? high low = some channel) : high ∈ hexDigits ∧ low ∈ hexDigits := by
  obtain ⟨hvalue, hhigh, h⟩ := Option.bind_eq_some_iff.mp h
  obtain ⟨lvalue, hlow, -⟩ := Option.bind_eq_some_iff.mp h
  exact ⟨mem_hexDigits_of_value hhigh, mem_hexDigits_of_value hlow⟩

/-- Six digits are a colour, which is written as their capitals. -/
theorem exists_ofDigits? {text : String} (h : IsSixDigits text) :
    ∃ c, ofDigits? text.toList = some c ∧ c.hex = text.toUpper := by
  obtain ⟨hlength, hdigits⟩ := h
  rw [← String.length_toList] at hlength
  obtain ⟨r₁, r₀, g₁, g₀, b₁, b₀, hlist⟩ :
      ∃ r₁ r₀ g₁ g₀ b₁ b₀, text.toList = [r₁, r₀, g₁, g₀, b₁, b₀] := by
    match text.toList, hlength with
    | [r₁, r₀, g₁, g₀, b₁, b₀], _ => exact ⟨r₁, r₀, g₁, g₀, b₁, b₀, rfl⟩
  simp only [hlist, List.forall_mem_cons] at hdigits
  obtain ⟨hr₁, hr₀, hg₁, hg₀, hb₁, hb₀, -⟩ := hdigits
  obtain ⟨red, hred, redDigits⟩ := exists_channel? hr₁ hr₀
  obtain ⟨green, hgreen, greenDigits⟩ := exists_channel? hg₁ hg₀
  obtain ⟨blue, hblue, blueDigits⟩ := exists_channel? hb₁ hb₀
  refine ⟨⟨red, green, blue⟩, ?_, ?_⟩
  · rw [hlist, ofDigits?, hred, hgreen, hblue]
    rfl
  · refine String.toList_injective ?_
    rw [hex, String.toList_ofList, redDigits, greenDigits, blueDigits, String.toUpper,
      String.toList_map, hlist]
    rfl

/-- What is read as a colour consists of six digits. -/
theorem isSixDigits_of_ofDigits? {text : String} {c : Color} (h : ofDigits? text.toList = some c) :
    IsSixDigits text := by
  rw [IsSixDigits, ← String.length_toList]
  unfold ofDigits? at h
  split at h
  · next r₁ r₀ g₁ g₀ b₁ b₀ hlist =>
    obtain ⟨red, hred, h⟩ := Option.bind_eq_some_iff.mp h
    obtain ⟨green, hgreen, h⟩ := Option.bind_eq_some_iff.mp h
    obtain ⟨blue, hblue, -⟩ := Option.bind_eq_some_iff.mp h
    obtain ⟨hr₁, hr₀⟩ := mem_hexDigits_of_channel? hred
    obtain ⟨hg₁, hg₀⟩ := mem_hexDigits_of_channel? hgreen
    obtain ⟨hb₁, hb₀⟩ := mem_hexDigits_of_channel? hblue
    rw [hlist]
    refine ⟨rfl, ?_⟩
    simp only [List.forall_mem_cons, hr₁, hr₀, hg₁, hg₀, hb₁, hb₀, List.not_mem_nil, true_and,
      false_imp_iff, implies_true]
  · cases h

theorem ofDigits?_eq_none {text : String} (h : ¬ IsSixDigits text) :
    ofDigits? text.toList = none := by
  cases hread : ofDigits? text.toList with
  | none => rfl
  | some c => exact absurd (isSixDigits_of_ofDigits? hread) h

/-! ## The number of a colour -/

/-- The bytes of the number, from the lowest one, are the channels. -/
theorem bytes_number (c : Color) :
    c.number % 256 = c.red.toNat ∧ c.number / 256 % 256 = c.green.toNat ∧
      c.number / 65536 = c.blue.toNat := by
  have hred : c.red.toNat < 256 := c.red.toNat_lt
  have hgreen : c.green.toNat < 256 := c.green.toNat_lt
  unfold number
  omega

/-! ## All texts -/

/-- A text of exactly six ASCII hexadecimal digits stands for the colour that is written as its
capitals, behind an opaque alpha channel or not, and whose number has the channels as its bytes from
the lowest one. Any other text stands for black, with a warning if it has six characters. Every colour
is read again from its digits. -/
theorem ofText_exact (text : String) :
    (IsSixDigits text →
      (ofText text).hex = text.toUpper ∧ (ofText text).argb = "FF" ++ text.toUpper ∧
        warnings text = []) ∧
      (¬ IsSixDigits text → ofText text = black ∧
        warnings text = if text.length = 6 then
          [⟨.warning, "excelauto.core.color", "Invalid hex color string: " ++ text⟩] else []) ∧
      (∀ c : Color, c.number % 256 = c.red.toNat ∧ c.number / 256 % 256 = c.green.toNat ∧
        c.number / 65536 = c.blue.toNat) ∧
      ∀ c : Color, ofText c.hex = c := by
  refine ⟨fun hdigits => ?_, fun hother => ?_, bytes_number, ofText_hex⟩
  · obtain ⟨c, hread, hhex⟩ := exists_ofDigits? hdigits
    have hcolor : ofText text = c := by
      rw [ofText, hread]
      rfl
    have hquiet : warnings text = [] := by simp [warnings, hread]
    rw [hcolor, argb, hhex]
    exact ⟨rfl, rfl, hquiet⟩
  · have hread := ofDigits?_eq_none hother
    have hcolor : ofText text = black := by
      rw [ofText, hread]
      rfl
    have hwarned : warnings text = if text.length = 6 then
        [⟨.warning, "excelauto.core.color", "Invalid hex color string: " ++ text⟩] else [] := by
      simp [warnings, hread]
    exact ⟨hcolor, hwarned⟩

/-- Small letters are digits, too; five digits and the end of a line are not a colour. -/
theorem small_letters_are_read :
    (ofText "00ff7f").hex = "00FF7F" ∧ (ofText "00ff7f").argb = "FF00FF7F" ∧
      warnings "00ff7f" = [] ∧ ofText "12345\n" = black ∧ (warnings "12345\n").length = 1 := by
  obtain ⟨hread, -⟩ := ofText_exact "00ff7f"
  obtain ⟨hhex, hargb, hquiet⟩ := hread (by decide)
  obtain ⟨-, hother, -⟩ := ofText_exact "12345\n"
  obtain ⟨hblack, hwarned⟩ := hother (by decide)
  have hcapitals : "00ff7f".toUpper = "00FF7F" := by
    refine String.toList_injective ?_
    rw [String.toUpper, String.toList_map]
    rfl
  rw [hcapitals] at hhex hargb
  refine ⟨hhex, hargb, hquiet, hblack, ?_⟩
  rw [hwarned]
  rfl

end WorkbookTools.Color
