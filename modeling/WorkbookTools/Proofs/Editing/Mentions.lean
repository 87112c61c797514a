import WorkbookTools.Editing.Apply

/-!
# The last mention of an attribute

A row of edits is applied to a cell one after the other, each attribute by attribute. In the end
each attribute is what the last edit that mentions it makes of the original cell, as if no other
edit had been there; what no edit mentions is left as it was.

* `updates_eq`: an edit writes what it mentions, in the fixed order of the attributes.
* `field_foldl`: the last mention of an attribute settles it.
* `foldl_keeps`: what no edit can mention stays.
-/

namespace WorkbookTools

/-! ## Attributes -/

/-- The attributes in the order in which an edit writes them. -/
def EditField.all : List EditField :=
  [.content, .alignment, .bold, .italic, .underline, .foreground, .background]

/-- The value of an attribute. An empty cell has no content, whatever its kind. -/
inductive FieldValue where
  | content (held : Option (CellKind × CellValue))
  | placement (horizontal : Option HorizontalPlacement)
  | flag (on : Bool)
  | underline (kind : Option Underline)
  | color (argb : Option String)
  deriving DecidableEq, Repr

/-- What an edit cannot mention, but for the size of the font. -/
structure CellRest where
  fontName : String
  vertical : Option VerticalPlacement
  wrap : Bool
  numberFormat : NumberFormat
  deriving DecidableEq, Repr

namespace Cell

def field (c : Cell) : EditField → FieldValue
  | .content => .content (if c.value = .empty then none else some (c.kind, c.value))
  | .alignment => .placement c.style.alignment.horizontal
  | .bold => .flag c.style.font.bold
  | .italic => .flag c.style.font.italic
  | .underline => .underline c.style.font.underline
  | .foreground => .color c.style.font.color
  | .background => .color c.style.fill

/-- What an edit cannot mention of the cell. -/
def rest (c : Cell) : CellRest :=
  ⟨c.style.font.name, c.style.alignment.vertical, c.style.alignment.wrap, c.style.numberFormat⟩

/-- A copy of the font keeps its size. -/
def HasLastingSize (c : Cell) : Prop := c.style.font.size.toSixteenDigits = c.style.font.size

/-- The text that a cell gets, or an error that does not depend on the cell. -/
theorem update_text (autoFormula : Bool) (c : Cell) (s : String) :
    c.update autoFormula (.text s) =
      let kept := String.ofList (s.toList.take maxTextLength)
      if kept.toList.any isIllegal then (.error kept, { c with kind := .text })
      else
        (.ok (), { c with
          kind := if looksLikeFormula s ∧ ¬ autoFormula then .text else kindOfText kept
          value := .text kept }) := by
  by_cases hillegal : (String.ofList (s.toList.take maxTextLength)).toList.any isIllegal
  · simp only [update, write, assign, assignText, if_pos hillegal]
  · simp only [update, write, assign, assignText, if_neg hillegal]
    split <;> rfl

theorem update_text_outcome (autoFormula : Bool) (c d : Cell) (s : String) :
    (c.update autoFormula (.text s)).1 = (d.update autoFormula (.text s)).1 := by
  rw [update_text, update_text]
  simp only
  split <;> rfl

end Cell

namespace CellEdit

variable {autoFormula : Bool} {e : CellEdit} {edits : List CellEdit} {c d : Cell} {f g : EditField}

/-! ## Mentions -/

/-- The update of an attribute that an edit mentions. -/
def mention (e : CellEdit) : EditField → Option CellUpdate
  | .content => e.content.map .text
  | .alignment => e.style.alignment.map fun a => .alignment (some a) none
  | .bold => e.style.bold.map .bold
  | .italic => e.style.italic.map .italic
  | .underline => e.style.underline.map .underline
  | .foreground => e.foreground.map .fontColor
  | .background => e.background.map .backgroundColor

/-- The updates of an edit are its mentions, in the fixed order. -/
theorem updates_eq (e : CellEdit) :
    e.updates = EditField.all.filterMap fun f => (e.mention f).map (f, ·) := by
  have hcons : ∀ (f : EditField) (rest : List EditField),
      (f :: rest).filterMap (fun f => (e.mention f).map (f, ·)) =
        ((e.mention f).map (f, ·)).toList ++
          rest.filterMap fun f => (e.mention f).map (f, ·) := by
    intro f rest
    cases hmention : e.mention f <;> simp [hmention]
  simp only [EditField.all, hcons, List.filterMap_nil, List.append_nil]
  simp only [updates, mention, Option.map_map, Function.comp_def, List.append_assoc]

theorem content_of_mem_updates {p : EditField × CellUpdate} {s : String} (hp : p ∈ e.updates)
    (hs : p.2 = .text s) : e.content = some s := by
  rw [updates_eq] at hp
  obtain ⟨f, -, hf⟩ := List.mem_filterMap.mp hp
  obtain ⟨u, hmention, rfl⟩ := Option.map_eq_some_iff.mp hf
  obtain rfl : u = .text s := hs
  cases f with
  | content =>
    obtain ⟨text, hcontent, htext⟩ := Option.map_eq_some_iff.mp hmention
    rw [hcontent, CellUpdate.text.inj htext]
  | _ =>
    obtain ⟨a, -, ha⟩ := Option.map_eq_some_iff.mp hmention
    cases ha

/-- The fields that are reported are the ones that the edit mentions. -/
theorem fields_eq (e : CellEdit) :
    e.applied.fields = EditField.all.filter fun f => (e.mention f).isSome := by
  unfold applied
  rw [updates_eq]
  simp only
  induction EditField.all with
  | nil => rfl
  | cons f rest ih => cases hmention : e.mention f <;> simp [hmention, ih]

/-- The last mention of an attribute in a row of edits. -/
def lastMention (edits : List CellEdit) (f : EditField) : Option CellUpdate :=
  (edits.filterMap (·.mention f)).getLast?

theorem lastMention_cons (e : CellEdit) (edits : List CellEdit) (f : EditField) :
    lastMention (e :: edits) f = (lastMention edits f).or (e.mention f) := by
  unfold lastMention
  cases hmention : e.mention f with
  | none => simp [hmention]
  | some u => simp [hmention, List.getLast?_cons]

theorem mem_of_lastMention {u : CellUpdate} (h : lastMention edits f = some u) :
    ∃ e ∈ edits, e.mention f = some u :=
  List.mem_filterMap.mp (List.mem_of_getLast? h)

/-! ## One mention -/

/-- The cell after one update, or as it is. -/
def alone (autoFormula : Bool) (c : Cell) : Option CellUpdate → Cell
  | none => c
  | some u => (c.update autoFormula u).2

/-- The content that the edit mentions, if it mentions one, is not refused. -/
def IsTaken (autoFormula : Bool) (e : CellEdit) : Prop :=
  ∀ s, e.content = some s → (Cell.empty.update autoFormula (.text s)).1 = .ok ()

/-- A mention decides its own attribute, whatever the cell was before. -/
theorem field_alone_of_some {u : CellUpdate} (htaken : IsTaken autoFormula e)
    (hmention : e.mention f = some u) (c d : Cell) :
    (alone autoFormula c (some u)).field f = (alone autoFormula d (some u)).field f := by
  cases f with
  | content =>
    obtain ⟨s, hcontent, rfl⟩ := Option.map_eq_some_iff.mp hmention
    have htext := htaken s hcontent
    rw [Cell.update_text] at htext
    by_cases hillegal :
        (String.ofList (s.toList.take Cell.maxTextLength)).toList.any Cell.isIllegal
    · simp only [if_pos hillegal] at htext
      cases htext
    · simp only [alone, Cell.update_text, if_neg hillegal]
      rfl
  | alignment =>
    obtain ⟨a, -, rfl⟩ := Option.map_eq_some_iff.mp hmention
    rfl
  | bold =>
    obtain ⟨on, -, rfl⟩ := Option.map_eq_some_iff.mp hmention
    rfl
  | italic =>
    obtain ⟨on, -, rfl⟩ := Option.map_eq_some_iff.mp hmention
    rfl
  | underline =>
    obtain ⟨on, -, rfl⟩ := Option.map_eq_some_iff.mp hmention
    rfl
  | foreground =>
    obtain ⟨color, -, rfl⟩ := Option.map_eq_some_iff.mp hmention
    rfl
  | background =>
    obtain ⟨color, -, rfl⟩ := Option.map_eq_some_iff.mp hmention
    rfl

/-- A mention leaves all other attributes alone, and the rest of the cell. -/
theorem alone_keeps (autoFormula : Bool) (e : CellEdit) (f : EditField) (c : Cell) :
    (∀ g ≠ f, (alone autoFormula c (e.mention f)).field g = c.field g) ∧
      (alone autoFormula c (e.mention f)).rest = c.rest ∧
      (c.HasLastingSize →
        (alone autoFormula c (e.mention f)).style.font.size = c.style.font.size) := by
  cases hmention : e.mention f with
  | none => exact ⟨fun _ _ => rfl, rfl, fun _ => rfl⟩
  | some u =>
    cases f with
    | content =>
      obtain ⟨s, -, rfl⟩ := Option.map_eq_some_iff.mp hmention
      have hstyle : (c.update autoFormula (.text s)).2.style = c.style := by
        rw [Cell.update_text]
        simp only
        split <;> rfl
      refine ⟨fun g hg => ?_, ?_, fun _ => ?_⟩
      · cases g with
        | content => exact absurd rfl hg
        | _ => simp only [Cell.field, alone, hstyle]
      · simp only [Cell.rest, alone, hstyle]
      · simp only [alone, hstyle]
    | alignment =>
      obtain ⟨a, -, rfl⟩ := Option.map_eq_some_iff.mp hmention
      refine ⟨fun g hg => ?_, ?_, fun _ => rfl⟩
      · cases g with
        | alignment => exact absurd rfl hg
        | _ => rfl
      · simp [Cell.rest, alone, Cell.update]
    | background =>
      obtain ⟨color, -, rfl⟩ := Option.map_eq_some_iff.mp hmention
      refine ⟨fun g hg => ?_, rfl, fun _ => rfl⟩
      cases g with
      | background => exact absurd rfl hg
      | _ => rfl
    | bold =>
      obtain ⟨on, -, rfl⟩ := Option.map_eq_some_iff.mp hmention
      refine ⟨fun g hg => ?_, rfl, id⟩
      cases g with
      | bold => exact absurd rfl hg
      | _ => rfl
    | italic =>
      obtain ⟨on, -, rfl⟩ := Option.map_eq_some_iff.mp hmention
      refine ⟨fun g hg => ?_, rfl, id⟩
      cases g with
      | italic => exact absurd rfl hg
      | _ => rfl
    | underline =>
      obtain ⟨on, -, rfl⟩ := Option.map_eq_some_iff.mp hmention
      refine ⟨fun g hg => ?_, rfl, id⟩
      cases g with
      | underline => exact absurd rfl hg
      | _ => rfl
    | foreground =>
      obtain ⟨color, -, rfl⟩ := Option.map_eq_some_iff.mp hmention
      refine ⟨fun g hg => ?_, rfl, id⟩
      cases g with
      | foreground => exact absurd rfl hg
      | _ => rfl

/-! ## One edit -/

def applyTo (autoFormula : Bool) (c : Cell) (e : CellEdit) : Cell :=
  EditField.all.foldl (fun c f => alone autoFormula c (e.mention f)) c

theorem applyTo_eq_foldl_updates (autoFormula : Bool) (c : Cell) (e : CellEdit) :
    applyTo autoFormula c e = e.updates.foldl (fun c p => (c.update autoFormula p.2).2) c := by
  rw [updates_eq, List.foldl_filterMap, applyTo]
  congr 1
  funext c f
  cases e.mention f <;> rfl

/-- What one mention after the other makes of a field. -/
theorem field_foldl_mentions (htaken : IsTaken autoFormula e) {fields : List EditField}
    (hdistinct : fields.Nodup) (c : Cell) (f : EditField) :
    (fields.foldl (fun c f => alone autoFormula c (e.mention f)) c).field f =
      if f ∈ fields then (alone autoFormula c (e.mention f)).field f else c.field f := by
  induction fields generalizing c with
  | nil => rfl
  | cons g others ih =>
    obtain ⟨hnew, hdistinct⟩ := List.nodup_cons.mp hdistinct
    rw [List.foldl_cons, ih hdistinct]
    by_cases hfg : f = g
    · subst hfg
      rw [if_neg hnew, if_pos List.mem_cons_self]
    · have hkept := (alone_keeps autoFormula e g c).1 f hfg
      by_cases hf : f ∈ others
      · rw [if_pos hf, if_pos (List.mem_cons_of_mem _ hf)]
        cases hmention : e.mention f with
        | none => exact hkept
        | some u => exact field_alone_of_some htaken hmention _ _
      · rw [if_neg hf, if_neg (List.not_mem_cons_of_ne_of_not_mem hfg hf)]
        exact hkept

theorem field_applyTo (htaken : IsTaken autoFormula e) (c : Cell) (f : EditField) :
    (applyTo autoFormula c e).field f = (alone autoFormula c (e.mention f)).field f := by
  have hall : f ∈ EditField.all := by cases f <;> decide
  rw [applyTo, field_foldl_mentions htaken (by decide) c f, if_pos hall]

theorem applyTo_keeps (autoFormula : Bool) (e : CellEdit) (c : Cell) :
    (applyTo autoFormula c e).rest = c.rest ∧
      (c.HasLastingSize → (applyTo autoFormula c e).style.font.size = c.style.font.size) := by
  unfold applyTo
  induction EditField.all generalizing c with
  | nil => exact ⟨rfl, fun _ => rfl⟩
  | cons f others ih =>
    obtain ⟨-, hrest, hsize⟩ := alone_keeps autoFormula e f c
    obtain ⟨hrest', hsize'⟩ := ih (alone autoFormula c (e.mention f))
    refine ⟨hrest'.trans hrest, fun hlasting => ?_⟩
    have hkept := hsize hlasting
    rw [List.foldl_cons, hsize' (by rw [Cell.HasLastingSize, hkept]; exact hlasting), hkept]

/-! ## A row of edits -/

/-- After a row of edits every field is what its last mention alone makes of the cell. -/
theorem field_foldl (htaken : ∀ e ∈ edits, IsTaken autoFormula e) (c : Cell) (f : EditField) :
    (edits.foldl (applyTo autoFormula) c).field f =
      (alone autoFormula c (lastMention edits f)).field f := by
  induction edits generalizing c with
  | nil => rfl
  | cons e rest ih =>
    have hrest : ∀ e ∈ rest, IsTaken autoFormula e := fun e he =>
      htaken e (List.mem_cons_of_mem _ he)
    rw [List.foldl_cons, ih hrest, lastMention_cons]
    cases hlast : lastMention rest f with
    | none => exact field_applyTo (htaken e List.mem_cons_self) c f
    | some u =>
      -- whatever `e` made of the cell, the later mention decides
      obtain ⟨later, hlater, hmention⟩ := mem_of_lastMention hlast
      exact field_alone_of_some (hrest later hlater) hmention _ _

/-- A row of edits leaves the rest of the cell alone. -/
theorem foldl_keeps (autoFormula : Bool) (edits : List CellEdit) (c : Cell) :
    (edits.foldl (applyTo autoFormula) c).rest = c.rest ∧
      (c.HasLastingSize →
        (edits.foldl (applyTo autoFormula) c).style.font.size = c.style.font.size) := by
  induction edits generalizing c with
  | nil => exact ⟨rfl, fun _ => rfl⟩
  | cons e others ih =>
    obtain ⟨hrest, hsize⟩ := applyTo_keeps autoFormula e c
    obtain ⟨hrest', hsize'⟩ := ih (applyTo autoFormula c e)
    refine ⟨hrest'.trans hrest, fun hlasting => ?_⟩
    have hkept := hsize hlasting
    rw [List.foldl_cons, hsize' (by rw [Cell.HasLastingSize, hkept]; exact hlasting), hkept]

end CellEdit

end WorkbookTools
