import WorkbookTools.Proofs.Editing.Sheets

/-!
# Attributes of cells

A cell is its attributes: what it holds, how numbers are shown, where its content stands, its font
and its fill. An update asks for changes of some of them. It sets these and no others, but for the
size of the font: a font is copied before it is changed, and a copy keeps sixteen digits of the
size.

* `Cell.eq_of_attributes`: the attributes are all that there is to a cell.
* `Cell.update_keeps`: an update leaves the attributes alone that it does not concern.
* `Cell.valueOf_update`: an update sets the attributes that it asks for.
* `SetterCall.valueOf_makeCalls`: after a row of calls each attribute of each cell is what the last
  change of it asks for, or as it was.
* `Sheet.makeCalls_of_applyAll`: a row of edits is a row of calls.
-/

namespace WorkbookTools

/-! ## Attributes and changes -/

inductive CellAttribute where
  | content
  | numberFormat
  | horizontal
  | vertical
  | wrap
  | fontName
  | fontSize
  | bold
  | italic
  | underline
  | fontColor
  | background
  deriving DecidableEq, Repr

inductive AttributeValue where
  | content (kind : CellKind) (value : CellValue)
  | numberFormat (format : NumberFormat)
  | horizontal (place : Option HorizontalPlacement)
  | vertical (place : Option VerticalPlacement)
  | flag (on : Bool)
  | name (s : String)
  | size (x : Binary64)
  | underline (kind : Option Underline)
  | color (argb : Option String)
  deriving DecidableEq, Repr

def Cell.valueOf (c : Cell) : CellAttribute → AttributeValue
  | .content => .content c.kind c.value
  | .numberFormat => .numberFormat c.style.numberFormat
  | .horizontal => .horizontal c.style.alignment.horizontal
  | .vertical => .vertical c.style.alignment.vertical
  | .wrap => .flag c.style.alignment.wrap
  | .fontName => .name c.style.font.name
  | .fontSize => .size c.style.font.size
  | .bold => .flag c.style.font.bold
  | .italic => .flag c.style.font.italic
  | .underline => .underline c.style.font.underline
  | .fontColor => .color c.style.font.color
  | .background => .color c.style.fill

/-- A change of one attribute. A text is literal if it is marked as one, so that it is no formula
and no error value. -/
inductive AttributeChange where
  | text (s : String) (literal : Bool)
  | horizontal (a : HorizontalAlignment)
  | vertical (a : VerticalAlignment)
  | bold (on : Bool)
  | italic (on : Bool)
  | underline (on : Bool)
  | fontColor (c : Color)
  | background (c : Color)
  deriving DecidableEq, Repr

namespace AttributeChange

def target : AttributeChange → CellAttribute
  | text .. => .content
  | horizontal _ => .horizontal
  | vertical _ => .vertical
  | bold _ => .bold
  | italic _ => .italic
  | underline _ => .underline
  | fontColor _ => .fontColor
  | background _ => .background

/-- What the attribute is after the change. -/
def value : AttributeChange → AttributeValue
  | text s literal => .content (if literal then .text else Cell.kindOfText s) (.text s)
  | horizontal a => .horizontal (some (.asked a))
  | vertical a => .vertical (some (.asked a))
  | bold on | italic on => .flag on
  | underline on => .underline (if on then some .single else none)
  | fontColor c | background c => .color (some c.argb)

end AttributeChange

/-- The value that the last change of an attribute gives it. -/
def lastChange (changes : List AttributeChange) (f : CellAttribute) : Option AttributeValue :=
  ((changes.filter (·.target = f)).getLast?).map (·.value)

theorem lastChange_append (changes more : List AttributeChange) (f : CellAttribute) :
    lastChange (changes ++ more) f = (lastChange more f).or (lastChange changes f) := by
  unfold lastChange
  rw [List.filter_append, List.getLast?_append]
  cases (more.filter (·.target = f)).getLast? <;> rfl

theorem lastChange_eq_none {changes : List AttributeChange} {f : CellAttribute}
    (h : ∀ change ∈ changes, change.target ≠ f) : lastChange changes f = none := by
  have hempty : changes.filter (·.target = f) = [] := by
    rw [List.filter_eq_nil_iff]
    intro change hchange
    simpa using h change hchange
  rw [lastChange, hempty]
  rfl

namespace CellUpdate

/-- The attributes that an update concerns. -/
def attributes : CellUpdate → List CellAttribute
  | text _ => [.content]
  | alignment horizontal vertical =>
    (horizontal.map fun _ => CellAttribute.horizontal).toList ++
      (vertical.map fun _ => CellAttribute.vertical).toList
  | bold _ => [.bold]
  | italic _ => [.italic]
  | underline _ => [.underline]
  | fontColor _ => [.fontColor]
  | backgroundColor _ => [.background]

/-- The text of the update, if it is one, is made literal. -/
def isForced (autoFormula : Bool) : CellUpdate → Bool
  | text s => Cell.looksLikeFormula s ∧ ¬ autoFormula
  | _ => false

/-- The changes that an update asks for. -/
def changes (autoFormula : Bool) : CellUpdate → List AttributeChange
  | text s => [.text s ((text s).isForced autoFormula)]
  | alignment horizontal vertical =>
    (horizontal.map .horizontal).toList ++ (vertical.map .vertical).toList
  | bold on => [.bold on]
  | italic on => [.italic on]
  | underline on => [.underline on]
  | fontColor c => [.fontColor c]
  | backgroundColor c => [.background c]

theorem attributes_eq (autoFormula : Bool) (u : CellUpdate) :
    u.attributes = (u.changes autoFormula).map (·.target) := by
  cases u with
  | alignment horizontal vertical => cases horizontal <;> cases vertical <;> rfl
  | _ => rfl

/-- The update copies the font of the cell and changes the copy. -/
def copiesFont : CellUpdate → Bool
  | bold _ | italic _ | underline _ | fontColor _ => true
  | text _ | alignment .. | backgroundColor _ => false

theorem fontSize_notMem_attributes (u : CellUpdate) : CellAttribute.fontSize ∉ u.attributes := by
  cases u with
  | alignment horizontal vertical => cases horizontal <;> cases vertical <;> simp [attributes]
  | _ => simp [attributes]

/-- A text that is neither cut nor refused. -/
def Fits : CellUpdate → Prop
  | text s => s.toList.length ≤ Cell.maxTextLength ∧ ∀ c ∈ s.toList, ¬ Cell.isIllegal c
  | _ => True

instance : DecidablePred Fits := fun u =>
  match u with
  | text _ => @instDecidableAnd _ _ (Nat.decLe _ _) (List.decidableBAll _ _)
  | alignment .. | bold _ | italic _ | underline _ | fontColor _ | backgroundColor _ =>
    isTrue trivial

end CellUpdate

namespace Cell

variable {c d : Cell} {u : CellUpdate} {f : CellAttribute}

/-- Cells with the same attributes are equal. -/
theorem eq_of_attributes (h : ∀ f, c.valueOf f = d.valueOf f) : c = d := by
  obtain ⟨kind, value, format, font, fill, alignment⟩ := c
  obtain ⟨kind', value', format', font', fill', alignment'⟩ := d
  obtain ⟨rfl, rfl⟩ := AttributeValue.content.inj (h .content)
  obtain rfl := AttributeValue.numberFormat.inj (h .numberFormat)
  obtain rfl := AttributeValue.color.inj (h .background)
  have hfont : font = font' := by
    obtain ⟨name, size, bold, italic, underline, color⟩ := font
    obtain ⟨name', size', bold', italic', underline', color'⟩ := font'
    obtain rfl := AttributeValue.name.inj (h .fontName)
    obtain rfl := AttributeValue.size.inj (h .fontSize)
    obtain rfl := AttributeValue.flag.inj (h .bold)
    obtain rfl := AttributeValue.flag.inj (h .italic)
    obtain rfl := AttributeValue.underline.inj (h .underline)
    obtain rfl := AttributeValue.color.inj (h .fontColor)
    rfl
  have halignment : alignment = alignment' := by
    obtain ⟨horizontal, vertical, wrap⟩ := alignment
    obtain ⟨horizontal', vertical', wrap'⟩ := alignment'
    obtain rfl := AttributeValue.horizontal.inj (h .horizontal)
    obtain rfl := AttributeValue.vertical.inj (h .vertical)
    obtain rfl := AttributeValue.flag.inj (h .wrap)
    rfl
  rw [hfont, halignment]

theorem style_update_text (autoFormula : Bool) (c : Cell) (s : String) :
    (c.update autoFormula (.text s)).2.style = c.style := by
  rw [update_text]
  simp only
  split <;> rfl

/-- An update leaves the attributes alone that it does not concern. -/
theorem update_keeps (autoFormula : Bool) (hf : f ∉ u.attributes)
    (hlasting : f = .fontSize → u.copiesFont → c.HasLastingSize) :
    (c.update autoFormula u).2.valueOf f = c.valueOf f := by
  cases u with
  | text s =>
    have hstyle := style_update_text autoFormula c s
    cases f with
    | content => exact absurd (List.mem_singleton_self _) hf
    | _ => simp only [valueOf, hstyle]
  | alignment horizontal vertical =>
    cases f with
    | horizontal =>
      cases horizontal with
      | none => rfl
      | some a => exact absurd List.mem_cons_self hf
    | vertical =>
      cases vertical with
      | none => rfl
      | some a => exact absurd (List.mem_append_right _ List.mem_cons_self) hf
    | _ => rfl
  | bold on =>
    cases f with
    | bold => exact absurd (List.mem_singleton_self _) hf
    | fontSize => exact congrArg AttributeValue.size (hlasting rfl rfl)
    | _ => rfl
  | italic on =>
    cases f with
    | italic => exact absurd (List.mem_singleton_self _) hf
    | fontSize => exact congrArg AttributeValue.size (hlasting rfl rfl)
    | _ => rfl
  | underline on =>
    cases f with
    | underline => exact absurd (List.mem_singleton_self _) hf
    | fontSize => exact congrArg AttributeValue.size (hlasting rfl rfl)
    | _ => rfl
  | fontColor color =>
    cases f with
    | fontColor => exact absurd (List.mem_singleton_self _) hf
    | fontSize => exact congrArg AttributeValue.size (hlasting rfl rfl)
    | _ => rfl
  | backgroundColor color =>
    cases f with
    | background => exact absurd (List.mem_singleton_self _) hf
    | _ => rfl

/-- The size of the font stays, unless a copy of the font has other digits. -/
theorem fontSize_update (autoFormula : Bool) (u : CellUpdate) (c : Cell) :
    (c.update autoFormula u).2.valueOf .fontSize = c.valueOf .fontSize ↔
      (u.copiesFont → c.HasLastingSize) := by
  constructor
  · intro hsize hcopies
    cases u with
    | text s => cases hcopies
    | alignment horizontal vertical => cases hcopies
    | backgroundColor color => cases hcopies
    | _ => exact AttributeValue.size.inj hsize
  · intro hlasting
    exact update_keeps autoFormula u.fontSize_notMem_attributes fun _ => hlasting

theorem update_text_of_fits {s : String} (hs : (CellUpdate.text s).Fits) (autoFormula : Bool)
    (c : Cell) :
    c.update autoFormula (.text s) = (.ok (), { c with
      kind := if looksLikeFormula s ∧ ¬ autoFormula then .text else kindOfText s
      value := .text s }) := by
  obtain ⟨hlength, hlegal⟩ := hs
  have hkept : String.ofList (s.toList.take maxTextLength) = s := by
    rw [List.take_of_length_le hlength, String.ofList_toList]
  have hany : ¬ s.toList.any isIllegal := by
    rw [List.any_eq_true]
    rintro ⟨char, hchar, hillegal⟩
    exact hlegal char hchar hillegal
  rw [update_text]
  simp only [hkept, if_neg hany]

/-- Whether an update is taken does not depend on the cell. -/
theorem update_outcome_congr (c d : Cell) (autoFormula : Bool) (u : CellUpdate) :
    (c.update autoFormula u).1 = (d.update autoFormula u).1 := by
  cases u with
  | text s => exact update_text_outcome autoFormula c d s
  | _ => rfl

theorem update_outcome_of_fits (autoFormula : Bool) (hu : u.Fits) (c : Cell) :
    (c.update autoFormula u).1 = .ok () := by
  cases u with
  | text s => rw [update_text_of_fits hu]
  | _ => rfl

/-- An update sets the attributes for which it asks. -/
theorem valueOf_update (autoFormula : Bool) (hu : u.Fits)
    (hlasting : f = .fontSize → c.HasLastingSize) :
    (c.update autoFormula u).2.valueOf f =
      (lastChange (u.changes autoFormula) f).getD (c.valueOf f) := by
  by_cases hf : f ∈ u.attributes
  · cases u with
    | text s =>
      obtain rfl := List.mem_singleton.mp hf
      rw [update_text_of_fits hu]
      simp [valueOf, CellUpdate.changes, CellUpdate.isForced, lastChange, AttributeChange.target,
        AttributeChange.value]
    | alignment horizontal vertical =>
      cases horizontal <;> cases vertical <;> cases f <;> rfl
    | _ =>
      obtain rfl := List.mem_singleton.mp hf
      rfl
  · have hnone : lastChange (u.changes autoFormula) f = none := by
      refine lastChange_eq_none fun change hchange htarget => hf ?_
      rw [u.attributes_eq autoFormula, ← htarget]
      exact List.mem_map_of_mem hchange
    rw [hnone, update_keeps autoFormula hf fun hsize _ => hlasting hsize]
    rfl

end Cell

/-! ## Rows of calls -/

/-- A call that changes one cell. -/
structure SetterCall where
  row : Int
  column : Int
  update : CellUpdate
  deriving DecidableEq, Repr

/-- A change of an attribute of a cell. -/
structure PlacedChange where
  row : Int
  column : Int
  change : AttributeChange
  deriving DecidableEq, Repr

def PlacedChange.isAt (p : PlacedChange) (row column : Nat) : Bool :=
  p.row = row ∧ p.column = column

/-- Makes calls one after the other, up to the first one that fails. -/
def makeCalls {σ : Type} (update : Updater σ) (calls : List SetterCall) : EditAction σ Unit :=
  calls.forM fun call => update call.row call.column call.update

/-- The value that the last change of an attribute of a cell gives it. -/
def lastChangeAt (changes : List PlacedChange) (row column : Nat) (f : CellAttribute) :
    Option AttributeValue :=
  lastChange ((changes.filter (·.isAt row column)).map (·.change)) f

theorem lastChangeAt_append (changes more : List PlacedChange) (row column : Nat)
    (f : CellAttribute) :
    lastChangeAt (changes ++ more) row column f =
      (lastChangeAt more row column f).or (lastChangeAt changes row column f) := by
  unfold lastChangeAt
  rw [List.filter_append, List.map_append, lastChange_append]

namespace SetterCall

open WorkbookTools.Action

theorem makeCalls_cons_ok {σ : Type} {update : Updater σ} {call : SetterCall}
    {rest : List SetterCall} {x z : σ} :
    result (makeCalls update (call :: rest)) x = (.ok (), z) ↔
      ∃ y, result (update call.row call.column call.update) x = (.ok (), y) ∧
        result (makeCalls update rest) y = (.ok (), z) := by
  have hsteps : makeCalls update (call :: rest) =
      (update call.row call.column call.update >>= fun _ => makeCalls update rest) := rfl
  rw [hsteps, bind_ok]
  exact ⟨fun ⟨_, y, hfirst, hrest⟩ => ⟨y, hfirst, hrest⟩,
    fun ⟨y, hfirst, hrest⟩ => ⟨(), y, hfirst, hrest⟩⟩

theorem makeCalls_append {σ : Type} {update : Updater σ} {calls more : List SetterCall} {x y z : σ}
    (hcalls : result (makeCalls update calls) x = (.ok (), y))
    (hmore : result (makeCalls update more) y = (.ok (), z)) :
    result (makeCalls update (calls ++ more)) x = (.ok (), z) := by
  induction calls generalizing x with
  | nil =>
    cases hcalls
    exact hmore
  | cons call rest ih =>
    obtain ⟨between, hfirst, hrest⟩ := makeCalls_cons_ok.mp hcalls
    exact makeCalls_cons_ok.mpr ⟨between, hfirst, ih hrest⟩

variable {autoFormula : Bool} {call : SetterCall} {calls : List SetterCall} {s s' : Sheet}

def isAt (call : SetterCall) (row column : Nat) : Bool := call.row = row ∧ call.column = column

/-- The call is about a cell of a sheet. -/
def InSheet (call : SetterCall) : Prop :=
  (1 ≤ call.row ∧ call.row ≤ Sheet.maxRow) ∧ 1 ≤ call.column

/-- The call is about a cell of a sheet, and its text is neither cut nor refused. -/
def Fits (call : SetterCall) : Prop := call.InSheet ∧ call.update.Fits

instance : DecidablePred Fits := fun _ => inferInstanceAs (Decidable (((_ ∧ _) ∧ _) ∧ _))

/-- The call is about a cell of a sheet, which takes the update. -/
def IsTaken (autoFormula : Bool) (call : SetterCall) : Prop :=
  call.InSheet ∧ ∀ c : Cell, (c.update autoFormula call.update).1 = .ok ()

theorem Fits.isTaken (h : call.Fits) (autoFormula : Bool) : call.IsTaken autoFormula :=
  ⟨h.1, fun c => Cell.update_outcome_of_fits autoFormula h.2 c⟩

/-- The sheet after the call, with its own cell updated. -/
def Updates (autoFormula : Bool) (call : SetterCall) (s s' : Sheet) : Prop :=
  ∀ i j, s'.cell? i j =
    if call.isAt i j then some ((s.cellAt i j).update autoFormula call.update).2 else s.cell? i j

theorem Updates.cellAt (h : call.Updates autoFormula s s') (i j : Nat) :
    s'.cellAt i j =
      if call.isAt i j then ((s.cellAt i j).update autoFormula call.update).2
      else s.cellAt i j := by
  rw [Sheet.cellAt, h]
  split <;> rfl

theorem updates_setCell (row column : Nat) (hrow : call.row = row) (hcolumn : call.column = column)
    (s : Sheet) :
    call.Updates autoFormula s
      (s.setCell row column ((s.cellAt row column).update autoFormula call.update).2) := by
  intro i j
  have hat : call.isAt i j = true ↔ row = i ∧ column = j := by
    simp only [isAt, decide_eq_true_eq]
    omega
  rw [Sheet.cell?_setCell]
  by_cases hplace : row = i ∧ column = j
  · rw [if_pos hplace, if_pos (hat.mpr hplace), hplace.1, hplace.2]
  · rw [if_neg hplace, if_neg (mt hat.mp hplace)]

/-- A call that is taken succeeds. -/
theorem IsTaken.updates (h : call.IsTaken autoFormula) (s : Sheet) :
    ∃ s', result (Sheet.updater autoFormula call.row call.column call.update) s = (.ok (), s') ∧
      call.Updates autoFormula s s' := by
  obtain ⟨⟨⟨hfirst, hlast⟩, hcolumn⟩, hok⟩ := h
  have hplace : ¬ (call.row < 1 ∨ call.column < 1) := by omega
  have hbelow : ¬ (Sheet.maxRow : Int) < call.row := by omega
  refine ⟨_, Sheet.result_updater_ok.mpr ?_,
    updates_setCell call.row.toNat call.column.toNat (by omega) (by omega) s⟩
  simp only [Sheet.update, Sheet.edit, if_neg hplace, if_neg hbelow]
  rw [← Sheet.cellAt, hok]
  rfl

/-- A call that succeeds has been taken. -/
theorem updater_ok
    (h : result (Sheet.updater autoFormula call.row call.column call.update) s = (.ok (), s')) :
    call.IsTaken autoFormula ∧ call.Updates autoFormula s s' := by
  have hplace : ¬ (call.row < 1 ∨ call.column < 1) ∧ ¬ (Sheet.maxRow : Int) < call.row := by
    have hedit := Sheet.result_updater_ok.mp h
    unfold Sheet.update Sheet.edit at hedit
    split at hedit
    · cases hedit
    · next hbelow =>
      split at hedit
      · cases hedit
      · next hlast => exact ⟨hbelow, hlast⟩
  obtain ⟨row, hrow⟩ := Int.eq_ofNat_of_zero_le (a := call.row) (by omega)
  obtain ⟨column, hcolumn⟩ := Int.eq_ofNat_of_zero_le (a := call.column) (by omega)
  rw [hrow, hcolumn] at h
  obtain ⟨hok, rfl⟩ := Sheet.updater_ok h
  refine ⟨⟨⟨by omega, by omega⟩, fun c => ?_⟩, updates_setCell row column hrow hcolumn s⟩
  rw [Cell.update_outcome_congr c (s.cellAt row column)]
  exact hok

/-- The changes that a call asks for. -/
def changes (autoFormula : Bool) (call : SetterCall) : List PlacedChange :=
  (call.update.changes autoFormula).map (⟨call.row, call.column, ·⟩)

theorem lastChangeAt_changes (autoFormula : Bool) (call : SetterCall) (i j : Nat)
    (f : CellAttribute) :
    lastChangeAt (call.changes autoFormula) i j f =
      if call.isAt i j then lastChange (call.update.changes autoFormula) f else none := by
  unfold lastChangeAt changes
  rw [List.filter_map]
  have hplace : (PlacedChange.isAt · i j) ∘ (⟨call.row, call.column, ·⟩) =
      fun _ : AttributeChange => call.isAt i j := rfl
  rw [hplace]
  split
  · next hat =>
    rw [List.filter_eq_self.mpr fun _ _ => hat, List.map_map]
    exact congrArg (lastChange · f) (List.map_id _)
  · next hat => simp [hat, lastChange]

theorem valueOf_updates (h : call.Updates autoFormula s s') (hu : call.update.Fits) (i j : Nat)
    (f : CellAttribute) (hlasting : f = .fontSize → (s.cellAt i j).HasLastingSize) :
    (s'.cellAt i j).valueOf f =
      (lastChangeAt (call.changes autoFormula) i j f).getD ((s.cellAt i j).valueOf f) := by
  rw [h.cellAt, lastChangeAt_changes]
  split
  · exact Cell.valueOf_update autoFormula hu hlasting
  · rfl

theorem lastChangeAt_fontSize (autoFormula : Bool) (call : SetterCall) (i j : Nat) :
    lastChangeAt (call.changes autoFormula) i j .fontSize = none := by
  rw [lastChangeAt_changes]
  split
  · refine lastChange_eq_none fun change hchange htarget => ?_
    refine call.update.fontSize_notMem_attributes ?_
    rw [call.update.attributes_eq autoFormula, ← htarget]
    exact List.mem_map_of_mem hchange
  · rfl

/-- A row of calls that fit is carried out, and the last change of each attribute counts. -/
theorem valueOf_makeCalls (autoFormula : Bool) (hcalls : ∀ call ∈ calls, call.Fits) (s : Sheet) :
    ∃ s', result (makeCalls (Sheet.updater autoFormula) calls) s = (.ok (), s') ∧
      ∀ i j f, (f = .fontSize → (s.cellAt i j).HasLastingSize) →
        (s'.cellAt i j).valueOf f =
          (lastChangeAt (calls.flatMap (·.changes autoFormula)) i j f).getD
            ((s.cellAt i j).valueOf f) := by
  induction calls generalizing s with
  | nil => exact ⟨s, rfl, fun _ _ _ _ => rfl⟩
  | cons call rest ih =>
    have hcall : call.Fits := hcalls call List.mem_cons_self
    obtain ⟨next, hfirst, hnext⟩ := (hcall.isTaken autoFormula).updates s
    have hvalues := valueOf_updates hnext hcall.2
    obtain ⟨s', hrest, hcells⟩ := ih (fun c hc => hcalls c (List.mem_cons_of_mem _ hc)) next
    refine ⟨s', makeCalls_cons_ok.mpr ⟨next, hfirst, hrest⟩, fun i j f hlasting => ?_⟩
    have hkept : f = .fontSize → (next.cellAt i j).HasLastingSize := by
      rintro rfl
      have hsize := hvalues i j .fontSize hlasting
      rw [lastChangeAt_fontSize] at hsize
      rw [Cell.HasLastingSize, AttributeValue.size.inj hsize]
      exact hlasting rfl
    rw [hcells i j f hkept, hvalues i j f hlasting, List.flatMap_cons, lastChangeAt_append]
    cases lastChangeAt (rest.flatMap (·.changes autoFormula)) i j f <;> rfl

/-- Calls that succeed are about cells of a sheet, and each leaves its cell in the sheet. -/
theorem makeCalls_leave_cells
    (h : result (makeCalls (Sheet.updater autoFormula) calls) s = (.ok (), s')) :
    (∀ i j, (s.cell? i j).isSome → (s'.cell? i j).isSome) ∧
      ∀ call ∈ calls, call.InSheet ∧ ∀ i j, call.isAt i j → (s'.cell? i j).isSome := by
  induction calls generalizing s with
  | nil =>
    cases h
    exact ⟨fun _ _ hcell => hcell, fun call hcall => by cases hcall⟩
  | cons first rest ih =>
    obtain ⟨next, hfirst, hrest⟩ := makeCalls_cons_ok.mp h
    obtain ⟨⟨hinside, -⟩, hupdates⟩ := updater_ok hfirst
    obtain ⟨hkept, hleft⟩ := ih hrest
    refine ⟨fun i j hcell => hkept i j ?_, fun call hcall => ?_⟩
    · rw [hupdates i j]
      split
      · rfl
      · exact hcell
    · rcases List.mem_cons.mp hcall with rfl | hcall
      · refine ⟨hinside, fun i j hat => hkept i j ?_⟩
        rw [hupdates i j, if_pos hat]
        rfl
      · exact hleft call hcall

end SetterCall

/-! ## Edits as rows of calls -/

/-- The calls of a setter by which an edit is applied. -/
def CellEdit.calls (e : CellEdit) : List SetterCall :=
  e.updates.map fun p => ⟨e.address.row, e.address.column, p.2⟩

/-- A row of edits that is applied, as a row of calls. -/
theorem Sheet.makeCalls_of_applyAll {autoFormula : Bool} {s s' : Sheet} {edits : List CellEdit}
    {applied : List AppliedEdit}
    (h : Action.result (CellEdit.applyAll (Sheet.updater autoFormula) edits) s =
      (.ok applied, s')) :
    Action.result (makeCalls (Sheet.updater autoFormula) (edits.flatMap CellEdit.calls)) s =
      (.ok (), s') := by
  induction edits generalizing s applied with
  | nil =>
    cases h
    rfl
  | cons e rest ih =>
    unfold CellEdit.applyAll at h
    obtain ⟨first, next, hfirst, h⟩ := Action.bind_ok.mp h
    obtain ⟨others, last, hothers, hend⟩ := Action.bind_ok.mp h
    cases hend
    rw [List.flatMap_cons]
    refine SetterCall.makeCalls_append ?_ (ih hothers)
    unfold makeCalls CellEdit.calls
    rw [List.forM_eq_forM, List.forM_map]
    exact (applyReported_eq_updates hfirst).2

end WorkbookTools
