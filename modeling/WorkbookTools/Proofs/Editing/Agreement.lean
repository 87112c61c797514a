import WorkbookTools.Proofs.Editing.Attributes
import WorkbookTools.Proofs.Excel.Edits

/-!
# Both engines make the same changes

The file engine changes cells in memory, and Excel is asked to set properties that are coded in
another way: positions and underlines by signed numbers, a colour by one number, a literal text by
the number format of texts before it. The requests are read here as changes of attributes, without
recourse to the way in which they are written.

* `readRequests_requests`: the requests of a call stand for the changes that it asks for.
* `engines_make_same_changes`: after any row of calls the sheet in memory has been changed as the
  requests to Excel say, and in no other way.
-/

namespace WorkbookTools

open WorkbookTools.Action

/-! ## Reading requests -/

def HorizontalAlignment.ofCode? : Int → Option HorizontalAlignment
  | -4131 => some .left
  | -4108 => some .center
  | -4152 => some .right
  | _ => none

def VerticalAlignment.ofCode? : Int → Option VerticalAlignment
  | -4160 => some .top
  | -4108 => some .center
  | -4107 => some .bottom
  | _ => none

def underlineOfCode? : Int → Option Bool
  | 2 => some true
  | -4142 => some false
  | _ => none

/-- The colour that a number stands for, red in the lowest byte. -/
def Color.ofNumber? (n : Nat) : Option Color :=
  if n < 16777216 then
    some ⟨UInt8.ofNat (n % 256), UInt8.ofNat (n / 256 % 256), UInt8.ofNat (n / 65536 % 256)⟩
  else none

/-- The change that a property stands for by itself. -/
def CellProperty.change? : CellProperty → Option AttributeChange
  | value s => some (.text s false)
  | numberFormat _ => none
  | horizontalAlignment code => (HorizontalAlignment.ofCode? code).map .horizontal
  | verticalAlignment code => (VerticalAlignment.ofCode? code).map .vertical
  | bold on => some (.bold on)
  | italic on => some (.italic on)
  | underline code => (underlineOfCode? code).map .underline
  | fontColor n => (Color.ofNumber? n).map .fontColor
  | interiorColor n => (Color.ofNumber? n).map .background

/-- The changes that a row of requests to a sheet stands for. The format of literal texts belongs to
the text that follows it in the same cell. -/
def readRequests (sheet : String) : List ExcelEvent → Option (List PlacedChange)
  | [] => some []
  | .setCell s row column (.numberFormat format) ::
      .setCell s' row' column' (.value text) :: rest =>
    if s = sheet ∧ format = "@" ∧ (s', row', column') = (s, row, column) then
      (⟨row, column, .text text true⟩ :: ·) <$> readRequests sheet rest
    else none
  | .setCell s row column property :: rest =>
    if s = sheet then
      match property.change? with
      | some change => (⟨row, column, change⟩ :: ·) <$> readRequests sheet rest
      | none => none
    else none
  | _ :: _ => none

theorem Color.ofNumber?_number (c : Color) : ofNumber? c.number = some c := by
  obtain ⟨red, green, blue⟩ := c
  have hred := red.toNat_lt
  have hgreen := green.toNat_lt
  have hblue := blue.toNat_lt
  have hbound : number ⟨red, green, blue⟩ < 16777216 := by
    simp only [number]
    omega
  have hlow : number ⟨red, green, blue⟩ % 256 = red.toNat := by
    simp only [number]
    omega
  have hmiddle : number ⟨red, green, blue⟩ / 256 % 256 = green.toNat := by
    simp only [number]
    omega
  have hhigh : number ⟨red, green, blue⟩ / 65536 % 256 = blue.toNat := by
    simp only [number]
    omega
  rw [ofNumber?, if_pos hbound, hlow, hmiddle, hhigh]
  simp only [UInt8.ofNat_toNat]

/-- A property that stands for a change by itself is read before the others. -/
theorem readRequests_cons {property : CellProperty} {change : AttributeChange}
    (h : property.change? = some change) (sheet : String) (row column : Int)
    (rest : List ExcelEvent) :
    readRequests sheet (.setCell sheet row column property :: rest) =
      (⟨row, column, change⟩ :: ·) <$> readRequests sheet rest := by
  cases property with
  | numberFormat format => cases h
  | _ => simp only [readRequests, h, if_true]

/-- The number format of literal texts and the text after it are read together. -/
theorem readRequests_literal (sheet : String) (row column : Int) (s : String)
    (rest : List ExcelEvent) :
    readRequests sheet (.setCell sheet row column (.numberFormat "@") ::
        .setCell sheet row column (.value s) :: rest) =
      (⟨row, column, .text s true⟩ :: ·) <$> readRequests sheet rest := by
  simp only [readRequests, and_self, if_true]

namespace SetterCall

variable (autoFormula : Bool) (sheet : String)

/-- The requests that a call makes to Excel. -/
def requests (call : SetterCall) : List ExcelEvent :=
  call.update.requests autoFormula sheet call.row call.column

theorem change?_horizontal (a : HorizontalAlignment) :
    (CellProperty.horizontalAlignment a.code).change? = some (.horizontal a) := by
  cases a <;> rfl

theorem change?_vertical (a : VerticalAlignment) :
    (CellProperty.verticalAlignment a.code).change? = some (.vertical a) := by
  cases a <;> rfl

theorem change?_underline (on : Bool) :
    (CellProperty.underline (underlineCode on)).change? = some (.underline on) := by
  cases on <;> rfl

theorem change?_fontColor (c : Color) :
    (CellProperty.fontColor c.number).change? = some (.fontColor c) := by
  rw [CellProperty.change?, Color.ofNumber?_number, Option.map_some]

theorem change?_interiorColor (c : Color) :
    (CellProperty.interiorColor c.number).change? = some (.background c) := by
  rw [CellProperty.change?, Color.ofNumber?_number, Option.map_some]

/-- The requests of a call stand for the changes that it asks for. -/
theorem readRequests_requests (call : SetterCall) (rest : List ExcelEvent) :
    readRequests sheet (call.requests autoFormula sheet ++ rest) =
      (call.changes autoFormula ++ ·) <$> readRequests sheet rest := by
  obtain ⟨row, column, u⟩ := call
  have hone : ∀ (property : CellProperty) (change : AttributeChange),
      property.change? = some change →
      u.requests autoFormula sheet row column = [.setCell sheet row column property] →
      u.changes autoFormula = [change] →
      readRequests sheet (u.requests autoFormula sheet row column ++ rest) =
        ((u.changes autoFormula).map (⟨row, column, ·⟩) ++ ·) <$> readRequests sheet rest := by
    intro property change hchange hrequests hchanges
    rw [hrequests, hchanges]
    exact readRequests_cons hchange sheet row column rest
  unfold requests changes
  cases u with
  | text s =>
    by_cases hforced : Cell.looksLikeFormula s ∧ ¬ autoFormula
    · have hrequests : (CellUpdate.text s).requests autoFormula sheet row column =
          [.setCell sheet row column (.numberFormat "@"),
            .setCell sheet row column (.value s)] := by
        simp only [CellUpdate.requests, CellUpdate.properties, if_pos hforced]
        rfl
      have hchanges : (CellUpdate.text s).changes autoFormula = [.text s true] := by
        rw [CellUpdate.changes, CellUpdate.isForced, decide_eq_true hforced]
      rw [hrequests, hchanges]
      exact readRequests_literal sheet row column s rest
    · refine hone (.value s) (.text s false) rfl ?_ ?_
      · simp only [CellUpdate.requests, CellUpdate.properties, if_neg hforced]
        rfl
      · rw [CellUpdate.changes, CellUpdate.isForced, decide_eq_false hforced]
  | alignment horizontal vertical =>
    have hhorizontal := fun a : HorizontalAlignment =>
      readRequests_cons (change?_horizontal a) sheet row column
    have hvertical := fun a : VerticalAlignment =>
      readRequests_cons (change?_vertical a) sheet row column rest
    cases horizontal with
    | none =>
      cases vertical with
      | none => exact (id_map _).symm
      | some v => exact hvertical v
    | some h =>
      cases vertical with
      | none => exact hhorizontal h rest
      | some v =>
        have hboth := hhorizontal h (.setCell sheet row column (.verticalAlignment v.code) :: rest)
        rw [hvertical v] at hboth
        exact hboth.trans (comp_map _ _ _).symm
  | bold on => exact hone (.bold on) (.bold on) rfl rfl rfl
  | italic on => exact hone (.italic on) (.italic on) rfl rfl rfl
  | underline on => exact hone _ _ (change?_underline on) rfl rfl
  | fontColor c => exact hone _ _ (change?_fontColor c) rfl rfl
  | backgroundColor c => exact hone _ _ (change?_interiorColor c) rfl rfl

theorem readRequests_flatMap (calls : List SetterCall) :
    readRequests sheet (calls.flatMap (·.requests autoFormula sheet)) =
      some (calls.flatMap (·.changes autoFormula)) := by
  induction calls with
  | nil => rfl
  | cons call rest ih =>
    rw [List.flatMap_cons, readRequests_requests, ih, List.flatMap_cons]
    rfl

/-- A row of calls makes its requests call by call, up to the first failure. -/
theorem result_makeCalls_excel (calls : List SetterCall) (x : Excel) :
    result (makeCalls (Excel.updater autoFormula sheet) calls) x =
      (match x.firstFault? (calls.flatMap (·.requests autoFormula sheet)) with
        | some f => .error (.fault f)
        | none => .ok (),
        x.afterAll (x.attempted (calls.flatMap (·.requests autoFormula sheet)))) := by
  induction calls generalizing x with
  | nil => rfl
  | cons call rest ih =>
    have hfirst := Excel.result_update autoFormula sheet call.row call.column call.update x
    unfold makeCalls List.forM
    rw [List.flatMap_cons, Excel.firstFault?_append, Excel.attempted_append, result_bind, hfirst]
    unfold requests
    cases hfault : x.firstFault? (call.update.requests autoFormula sheet call.row call.column) with
    | some f => rfl
    | none =>
      simp only [Excel.attempted_of_firstFault?_none hfault, Option.none_or, Excel.afterAll_append]
      exact ih _

end SetterCall

/-- Any row of calls that concern cells of the sheet, with texts that a cell can hold, is carried
out in memory, and by Excel if it takes what it is asked for. The requests to Excel then stand for
changes by which the sheet in memory has been changed: after the calls each attribute of each cell
is what its last change makes of it, and without a change it is as it was. (A change of the font
keeps the size of a font that has no more than sixteen digits.) -/
theorem engines_make_same_changes (autoFormula : Bool) (sheet : String) (calls : List SetterCall)
    (hcalls : ∀ call ∈ calls, call.Fits) (s : Sheet) (x : Excel)
    (hx : x.firstFault? (calls.flatMap (·.requests autoFormula sheet)) = none) :
    ∃ s' x' events changes,
      result (makeCalls (Sheet.updater autoFormula) calls) s = (.ok (), s') ∧
      result (makeCalls (Excel.updater autoFormula sheet) calls) x = (.ok (), x') ∧
      x'.events = x.events ++ events ∧
      readRequests sheet events = some changes ∧
      changes = calls.flatMap (·.changes autoFormula) ∧
      ∀ i j f, (f = .fontSize → (s.cellAt i j).HasLastingSize) →
        (s'.cellAt i j).valueOf f =
          (lastChangeAt changes i j f).getD ((s.cellAt i j).valueOf f) := by
  obtain ⟨s', hfile, hvalues⟩ := SetterCall.valueOf_makeCalls autoFormula hcalls s
  have hexcel := SetterCall.result_makeCalls_excel autoFormula sheet calls x
  rw [hx, Excel.attempted_of_firstFault?_none hx] at hexcel
  exact ⟨s', _, _, _, hfile, hexcel, Excel.events_afterAll x _,
    SetterCall.readRequests_flatMap autoFormula sheet calls, rfl, hvalues⟩

/-- Calls on three cells, with a text that begins with the equals sign. -/
def variedCalls : List SetterCall :=
  [⟨1, 1, .text "=1+1"⟩, ⟨1, 1, .alignment (some .center) (some .bottom)⟩,
    ⟨2, 3, .fontColor ⟨255, 128, 0⟩⟩, ⟨1048576, 20000, .underline false⟩, ⟨1, 1, .bold true⟩]

/-- The text stays a text, centred at the bottom. -/
theorem variedCalls_agree :
    (∀ call ∈ variedCalls, call.Fits) ∧
      (Excel.ofSetup .absent).firstFault? (variedCalls.flatMap (·.requests false "S")) = none ∧
      ∃ s' x' changes,
        result (makeCalls (Sheet.updater false) variedCalls) Sheet.empty = (.ok (), s') ∧
        result (makeCalls (Excel.updater false "S") variedCalls) (Excel.ofSetup .absent) =
          (.ok (), x') ∧
        readRequests "S" x'.events = some changes ∧
        (s'.cellAt 1 1).valueOf .content = .content .text (.text "=1+1") ∧
        (s'.cellAt 1 1).valueOf .horizontal = .horizontal (some (.asked .center)) ∧
        (s'.cellAt 2 3).valueOf .fontColor = .color (some "FFFF8000") := by
  have hcalls : ∀ call ∈ variedCalls, call.Fits := by decide
  have hfault : (Excel.ofSetup .absent).firstFault?
      (variedCalls.flatMap (·.requests false "S")) = none := by decide
  obtain ⟨s', x', events, changes, hfile, hexcel, hevents, hread, rfl, hvalues⟩ :=
    engines_make_same_changes false "S" variedCalls hcalls Sheet.empty _ hfault
  have hnew : x'.events = events := hevents
  refine ⟨hcalls, hfault, s', x', variedCalls.flatMap (·.changes false), hfile, hexcel, ?_, ?_, ?_,
    ?_⟩
  · rw [hnew, hread]
  · rw [hvalues 1 1 .content nofun]
    decide
  · rw [hvalues 1 1 .horizontal nofun]
    decide
  · rw [hvalues 2 3 .fontColor nofun]
    decide

end WorkbookTools
