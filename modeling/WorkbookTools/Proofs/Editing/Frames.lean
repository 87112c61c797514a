import WorkbookTools.Proofs.Editing.Agreement

/-!
# What setters leave alone

A setter changes one attribute of one cell. In memory that is so, but for the size of a font with
more than sixteen digits. Excel, however, is asked for the number format of texts besides, when a
text has to be made literal, and this format stays when the cell gets another text.

* `setters_keep_other_attributes`: what one call leaves alone in either engine, and when a row of
  calls does the same as the row with only the last text of a cell.
* `literal_format_outlasts_text`: the format of a text that has been overwritten.
-/

namespace WorkbookTools

open WorkbookTools.Action

/-! ## Calls in memory -/

namespace Cell

variable {c d : Cell}

theorem style_update_congr (h : c.style = d.style) (autoFormula : Bool) (u : CellUpdate) :
    (c.update autoFormula u).2.style = (d.update autoFormula u).2.style := by
  cases u with
  | text s => rw [style_update_text, style_update_text, h]
  | _ => simp only [update, setFont, h]

/-- What a text makes of a cell does not depend on what the cell has held. -/
theorem update_text_congr (h : c.style = d.style) (autoFormula : Bool) {s : String}
    (hok : (c.update autoFormula (.text s)).1 = .ok ()) :
    (c.update autoFormula (.text s)).2 = (d.update autoFormula (.text s)).2 := by
  rw [update_text] at hok
  rw [update_text, update_text]
  simp only at hok ⊢
  split at hok
  · cases hok
  · next hlegal => rw [if_neg hlegal, if_neg hlegal, h]

end Cell

namespace SetterCall

variable {autoFormula : Bool} {call : SetterCall} {calls : List SetterCall} {s s' t : Sheet}
  {i j : Nat}

/-- The call gives the cell a text. -/
def setsTextAt (row column : Nat) (call : SetterCall) : Bool :=
  match call.update with
  | .text _ => call.isAt row column
  | _ => false

theorem setsTextAt_iff :
    call.setsTextAt i j = true ↔ call.isAt i j = true ∧ ∃ s, call.update = .text s := by
  unfold setsTextAt
  cases call.update <;> simp

/-- The calls without the texts of the cell that a later one overwrites. -/
def lastTextOnly (row column : Nat) : List SetterCall → List SetterCall
  | [] => []
  | call :: rest =>
    if call.setsTextAt row column ∧ rest.any (setsTextAt row column) then
      lastTextOnly row column rest
    else call :: lastTextOnly row column rest

/-- A row of calls succeeds without the overwritten texts too, and makes the same of the cell. The
two runs keep the same style of the cell, and the same content as soon as no text is to come. -/
theorem makeCalls_lastTextOnly
    (h : result (makeCalls (Sheet.updater autoFormula) calls) s = (.ok (), s'))
    (hstyle : (t.cellAt i j).style = (s.cellAt i j).style)
    (hcell : calls.any (setsTextAt i j) = false → t.cellAt i j = s.cellAt i j) :
    ∃ t', result (makeCalls (Sheet.updater autoFormula) (lastTextOnly i j calls)) t =
      (.ok (), t') ∧ t'.cellAt i j = s'.cellAt i j := by
  induction calls generalizing s t with
  | nil =>
    cases h
    exact ⟨t, rfl, hcell rfl⟩
  | cons call rest ih =>
    obtain ⟨next, hfirst, hrest⟩ := makeCalls_cons_ok.mp h
    obtain ⟨htaken, hnext⟩ := updater_ok hfirst
    unfold lastTextOnly
    by_cases hdropped : call.setsTextAt i j ∧ rest.any (setsTextAt i j)
    · rw [if_pos hdropped]
      obtain ⟨hat, text, htext⟩ := setsTextAt_iff.mp hdropped.1
      refine ih hrest ?_ fun hnone => ?_
      · rw [hstyle, hnext.cellAt, if_pos hat, htext, Cell.style_update_text]
      · rw [hdropped.2] at hnone
        cases hnone
    · rw [if_neg hdropped]
      obtain ⟨other, hstep, hother⟩ := htaken.updates t
      have hstyle' : (other.cellAt i j).style = (next.cellAt i j).style := by
        rw [hother.cellAt, hnext.cellAt]
        split
        · exact Cell.style_update_congr hstyle autoFormula call.update
        · exact hstyle
      have hcell' : rest.any (setsTextAt i j) = false → other.cellAt i j = next.cellAt i j := by
        intro hnone
        rw [hother.cellAt, hnext.cellAt]
        by_cases hsets : call.setsTextAt i j
        · -- this is the last text, before which the cells may differ in their content
          obtain ⟨hat, text, htext⟩ := setsTextAt_iff.mp hsets
          have hok := htaken.2 (t.cellAt i j)
          rw [htext] at hok
          rw [if_pos hat, if_pos hat, htext, Cell.update_text_congr hstyle autoFormula hok]
        · have hnone' : (call :: rest).any (setsTextAt i j) = false := by
            rw [List.any_cons, hnone, Bool.or_false]
            exact Bool.eq_false_iff.mpr hsets
          rw [hcell hnone']
      obtain ⟨t', hrun, hsame⟩ := ih hrest hstyle' hcell'
      exact ⟨t', makeCalls_cons_ok.mpr ⟨other, hstep, hrun⟩, hsame⟩

/-- What a call in memory leaves alone: the other cells, and the attributes that it does not
concern. A copy of the font may have another size. -/
structure KeepsOthers (call : SetterCall) (s s' : Sheet) : Prop where
  cells : ∀ i j, ¬ call.isAt i j → s'.cell? i j = s.cell? i j
  attributes : ∀ i j f, f ∉ call.update.attributes → f ≠ .fontSize →
    (s'.cellAt i j).valueOf f = (s.cellAt i j).valueOf f
  fontSize : ∀ i j, call.isAt i j →
    ((s'.cellAt i j).valueOf .fontSize = (s.cellAt i j).valueOf .fontSize ↔
      (call.update.copiesFont → (s.cellAt i j).HasLastingSize))

theorem Updates.keepsOthers (h : call.Updates autoFormula s s') : call.KeepsOthers s s' := by
  refine ⟨fun i j hat => ?_, fun i j f hf hsize => ?_, fun i j hat => ?_⟩
  · rw [h, if_neg hat]
  · rw [h.cellAt]
    split
    · exact Cell.update_keeps autoFormula hf fun hfont => absurd hfont hsize
    · rfl
  · rw [h.cellAt, if_pos hat]
    exact Cell.fontSize_update autoFormula call.update (s.cellAt i j)

end SetterCall

/-! ## Requests to Excel -/

/-- The attribute that a property stands for. -/
def CellProperty.target : CellProperty → CellAttribute
  | value _ => .content
  | numberFormat _ => .numberFormat
  | horizontalAlignment _ => .horizontal
  | verticalAlignment _ => .vertical
  | bold _ => .bold
  | italic _ => .italic
  | underline _ => .underline
  | fontColor _ => .fontColor
  | interiorColor _ => .background

/-- The property for an attribute of a cell that a request sets. -/
def ExcelEvent.setAt? (sheet : String) (row column : Nat) (f : CellAttribute) :
    ExcelEvent → Option CellProperty
  | .setCell s r c p => if s = sheet ∧ r = row ∧ c = column ∧ p.target = f then some p else none
  | _ => none

/-- The property for an attribute of a cell that was set last. -/
def lastSet (sheet : String) (events : List ExcelEvent) (row column : Nat) (f : CellAttribute) :
    Option CellProperty :=
  (events.filterMap (·.setAt? sheet row column f)).getLast?

theorem lastSet_append (sheet : String) (events more : List ExcelEvent) (i j : Nat)
    (f : CellAttribute) :
    lastSet sheet (events ++ more) i j f =
      (lastSet sheet more i j f).or (lastSet sheet events i j f) := by
  unfold lastSet
  rw [List.filterMap_append, List.getLast?_append]

namespace CellUpdate

variable {autoFormula : Bool} {u : CellUpdate}

theorem numberFormat_notMem_attributes (u : CellUpdate) :
    CellAttribute.numberFormat ∉ u.attributes := by
  cases u with
  | alignment horizontal vertical => cases horizontal <;> cases vertical <;> simp [attributes]
  | _ => simp [attributes]

/-- The properties that an update sets: those that it concerns, and before a text that has to be
made literal the number format of texts. -/
theorem properties_eq (autoFormula : Bool) (u : CellUpdate) :
    ∃ own, u.properties autoFormula =
        (if u.isForced autoFormula then [.numberFormat "@"] else []) ++ own ∧
      own.map (·.target) = u.attributes := by
  cases u with
  | text s =>
    refine ⟨[.value s], ?_, rfl⟩
    by_cases hforced : Cell.looksLikeFormula s ∧ ¬ autoFormula
    · rw [properties, if_pos hforced, isForced, decide_eq_true hforced]
      rfl
    · rw [properties, if_neg hforced, isForced, decide_eq_false hforced]
      rfl
  | alignment horizontal vertical =>
    refine ⟨_, rfl, ?_⟩
    cases horizontal <;> cases vertical <;> rfl
  | _ => exact ⟨_, rfl, rfl⟩

end CellUpdate

namespace SetterCall

variable {autoFormula : Bool} {call : SetterCall} {calls : List SetterCall} {i j : Nat}
  {f : CellAttribute} (sheet : String)

/-- The call gives the cell a text that is made literal. -/
def forcesTextAt (autoFormula : Bool) (row column : Nat) (call : SetterCall) : Bool :=
  call.isAt row column ∧ call.update.isForced autoFormula

theorem lastSet_requests (autoFormula : Bool) (call : SetterCall) (i j : Nat) (f : CellAttribute) :
    lastSet sheet (call.requests autoFormula sheet) i j f =
      if call.isAt i j then
        ((call.update.properties autoFormula).filter (·.target = f)).getLast?
      else none := by
  have hset : ∀ p : CellProperty,
      (ExcelEvent.setCell sheet call.row call.column p).setAt? sheet i j f =
        if call.isAt i j ∧ p.target = f then some p else none := by
    intro p
    simp only [ExcelEvent.setAt?, isAt, true_and, decide_eq_true_eq, and_assoc]
  have hlist : ∀ properties : List CellProperty,
      (properties.map (ExcelEvent.setCell sheet call.row call.column)).filterMap
          (·.setAt? sheet i j f) =
        if call.isAt i j then properties.filter (·.target = f) else [] := by
    intro properties
    induction properties with
    | nil => simp
    | cons p rest ih =>
      rw [List.map_cons, List.filterMap_cons, ih, hset]
      by_cases hat : call.isAt i j <;> by_cases hp : p.target = f <;> simp [hat, hp]
  unfold lastSet requests CellUpdate.requests
  rw [hlist]
  split <;> rfl

/-- Number formats are set for literal texts only. -/
theorem lastSet_numberFormat (autoFormula : Bool) (call : SetterCall) (i j : Nat) :
    lastSet sheet (call.requests autoFormula sheet) i j .numberFormat =
      if call.forcesTextAt autoFormula i j then some (.numberFormat "@") else none := by
  obtain ⟨own, hproperties, hown⟩ := call.update.properties_eq autoFormula
  have hnone : own.filter (·.target = .numberFormat) = [] := by
    rw [List.filter_eq_nil_iff]
    intro p hp htarget
    refine call.update.numberFormat_notMem_attributes ?_
    rw [← hown, ← of_decide_eq_true htarget]
    exact List.mem_map_of_mem hp
  rw [lastSet_requests, hproperties, List.filter_append, hnone, List.append_nil, forcesTextAt]
  by_cases hat : call.isAt i j <;> by_cases hforced : call.update.isForced autoFormula <;>
    simp [hat, hforced, CellProperty.target]

/-- A text sets what the cell holds, and besides at most its number format. -/
theorem lastSet_text (autoFormula : Bool) (h : call.setsTextAt i j) (hf : f ≠ .numberFormat) :
    (lastSet sheet (call.requests autoFormula sheet) i j f).isSome ↔ f = .content := by
  obtain ⟨hat, text, htext⟩ := setsTextAt_iff.mp h
  obtain ⟨own, hproperties, hown⟩ := call.update.properties_eq autoFormula
  have hforced : (if call.update.isForced autoFormula then
      [CellProperty.numberFormat "@"] else []).filter (·.target = f) = [] := by
    split
    · simp [CellProperty.target, hf.symm]
    · rfl
  rw [htext, CellUpdate.attributes] at hown
  obtain ⟨p, rfl, htarget⟩ := List.map_eq_singleton_iff.mp hown
  rw [lastSet_requests, if_pos hat, hproperties, List.filter_append, hforced, List.nil_append]
  by_cases hcontent : f = .content
  · simp [htarget, hcontent]
  · simp [htarget, hcontent, Ne.symm hcontent]

theorem isSome_lastSet_content (autoFormula : Bool) (h : calls.any (setsTextAt i j)) :
    (lastSet sheet (calls.flatMap (·.requests autoFormula sheet)) i j .content).isSome := by
  induction calls with
  | nil => cases h
  | cons call rest ih =>
    rw [List.flatMap_cons, lastSet_append, Option.isSome_or, Bool.or_eq_true]
    rw [List.any_cons, Bool.or_eq_true] at h
    rcases h with hcall | hrest
    · exact .inr ((lastSet_text (f := .content) sheet autoFormula hcall nofun).mpr rfl)
    · exact .inl (ih hrest)

/-- Without the overwritten texts the same properties are set last, but for the number format. -/
theorem lastSet_lastTextOnly (autoFormula : Bool) (calls : List SetterCall)
    (hf : f ≠ .numberFormat) :
    lastSet sheet ((lastTextOnly i j calls).flatMap (·.requests autoFormula sheet)) i j f =
      lastSet sheet (calls.flatMap (·.requests autoFormula sheet)) i j f := by
  induction calls with
  | nil => rfl
  | cons call rest ih =>
    unfold lastTextOnly
    rw [List.flatMap_cons, lastSet_append]
    by_cases hdropped : call.setsTextAt i j ∧ rest.any (setsTextAt i j)
    · rw [if_pos hdropped, ih]
      have htext := lastSet_text sheet autoFormula hdropped.1 hf
      by_cases hcontent : f = .content
      · subst hcontent
        have hlater := isSome_lastSet_content sheet autoFormula hdropped.2
        rw [Option.or_of_isSome hlater]
      · rw [Option.not_isSome_iff_eq_none.mp (mt htext.mp hcontent), Option.or_none]
    · rw [if_neg hdropped, List.flatMap_cons, lastSet_append, ih]

theorem lastSet_numberFormat_flatMap (autoFormula : Bool) (calls : List SetterCall) :
    lastSet sheet (calls.flatMap (·.requests autoFormula sheet)) i j .numberFormat =
      if calls.any (forcesTextAt autoFormula i j) then some (.numberFormat "@") else none := by
  induction calls with
  | nil => rfl
  | cons call rest ih =>
    rw [List.flatMap_cons, lastSet_append, ih, lastSet_numberFormat, List.any_cons]
    by_cases hcall : call.forcesTextAt autoFormula i j <;>
      by_cases hrest : rest.any (forcesTextAt autoFormula i j) <;> simp [hcall, hrest]

theorem any_lastTextOnly {p : SetterCall → Bool} (h : (lastTextOnly i j calls).any p) :
    calls.any p := by
  induction calls with
  | nil => exact h
  | cons call rest ih =>
    unfold lastTextOnly at h
    rw [List.any_cons, Bool.or_eq_true]
    split at h
    · exact .inr (ih h)
    · rw [List.any_cons, Bool.or_eq_true] at h
      exact h.imp id ih

variable {x x' : Excel}

theorem events_makeCalls
    (h : result (makeCalls (Excel.updater autoFormula sheet) calls) x = (.ok (), x')) :
    x'.events = x.events ++ calls.flatMap (·.requests autoFormula sheet) := by
  rw [result_makeCalls_excel] at h
  cases hfault : x.firstFault? (calls.flatMap (·.requests autoFormula sheet)) with
  | some f =>
    rw [hfault] at h
    cases h
  | none =>
    rw [Excel.attempted_of_firstFault?_none hfault] at h
    rw [← (Prod.mk.inj h).2, Excel.events_afterAll]

theorem events_updater
    (h : result (Excel.updater autoFormula sheet call.row call.column call.update) x =
      (.ok (), x')) :
    ∃ own, x'.events = x.events ++
        ((if call.update.isForced autoFormula then [.numberFormat "@"] else []) ++ own).map
          (.setCell sheet call.row call.column) ∧
      own.map (·.target) = call.update.attributes := by
  obtain ⟨own, hproperties, hown⟩ := call.update.properties_eq autoFormula
  have hone : result (makeCalls (Excel.updater autoFormula sheet) [call]) x = (.ok (), x') :=
    makeCalls_cons_ok.mpr ⟨x', h, rfl⟩
  refine ⟨own, ?_, hown⟩
  rw [events_makeCalls sheet hone, ← hproperties]
  simp [requests, CellUpdate.requests]

/-! ## Setters -/

/-- In memory a call that succeeds changes the attributes of its own cell that it concerns, and may
round the size of a font that it copies; a row of calls makes the same of a cell without the texts
that a later one overwrites. Excel is asked for the attributes that a call concerns, and before a
text that has to be made literal for the number format of texts; so a row of calls sets the same
properties of a cell without the overwritten texts, but the number format only if none of the texts
was literal, or the last one is too, or the cell had this format before. -/
theorem setters_keep_other_attributes (autoFormula : Bool) (sheet : String) :
    (∀ (call : SetterCall) (s s' : Sheet),
      result (Sheet.updater autoFormula call.row call.column call.update) s = (.ok (), s') →
        call.KeepsOthers s s') ∧
    (∀ (calls : List SetterCall) (s s' : Sheet) (i j : Nat),
      result (makeCalls (Sheet.updater autoFormula) calls) s = (.ok (), s') →
        ∃ s'', result (makeCalls (Sheet.updater autoFormula) (lastTextOnly i j calls)) s =
          (.ok (), s'') ∧ s''.cellAt i j = s'.cellAt i j) ∧
    (∀ (call : SetterCall) (x x' : Excel),
      result (Excel.updater autoFormula sheet call.row call.column call.update) x = (.ok (), x') →
        ∃ own, x'.events = x.events ++
            ((if call.update.isForced autoFormula then [.numberFormat "@"] else []) ++ own).map
              (.setCell sheet call.row call.column) ∧
          own.map (·.target) = call.update.attributes) ∧
    ∀ (calls : List SetterCall) (x x' x'' : Excel) (i j : Nat),
      result (makeCalls (Excel.updater autoFormula sheet) calls) x = (.ok (), x') →
      result (makeCalls (Excel.updater autoFormula sheet) (lastTextOnly i j calls)) x =
        (.ok (), x'') →
        (∀ f ≠ .numberFormat, lastSet sheet x''.events i j f = lastSet sheet x'.events i j f) ∧
        (lastSet sheet x''.events i j .numberFormat = lastSet sheet x'.events i j .numberFormat ↔
          (calls.any (forcesTextAt autoFormula i j) →
            (lastTextOnly i j calls).any (forcesTextAt autoFormula i j) ∨
              lastSet sheet x.events i j .numberFormat = some (.numberFormat "@"))) := by
  refine ⟨fun call s s' h => (updater_ok h).2.keepsOthers, fun calls s s' i j h => ?_,
    fun call x x' h => events_updater sheet h, fun calls x x' x'' i j h h' => ⟨fun f hf => ?_, ?_⟩⟩
  · exact makeCalls_lastTextOnly h rfl fun _ => rfl
  · rw [events_makeCalls sheet h, events_makeCalls sheet h', lastSet_append, lastSet_append,
      lastSet_lastTextOnly sheet autoFormula calls hf]
  · rw [events_makeCalls sheet h, events_makeCalls sheet h', lastSet_append, lastSet_append,
      lastSet_numberFormat_flatMap, lastSet_numberFormat_flatMap]
    by_cases hlast : (lastTextOnly i j calls).any (forcesTextAt autoFormula i j)
    · rw [if_pos hlast, if_pos (any_lastTextOnly hlast)]
      exact ⟨fun _ _ => .inl hlast, fun _ => rfl⟩
    · by_cases hforced : calls.any (forcesTextAt autoFormula i j)
      · rw [if_neg hlast, if_pos hforced, Option.none_or, Option.some_or]
        exact ⟨fun hsame _ => .inr hsame, fun h => (h hforced).resolve_left hlast⟩
      · rw [if_neg hlast, if_neg hforced]
        exact ⟨fun _ h => absurd h hforced, fun _ => rfl⟩

/-- The format of a literal text stays when another text overwrites it. -/
theorem literal_format_outlasts_text :
    let calls : List SetterCall := [⟨1, 1, .text "=1"⟩, ⟨1, 1, .text "x"⟩]
    let run := result (makeCalls (Excel.updater false "S") calls) (Excel.ofSetup .absent)
    let run' := result (makeCalls (Excel.updater false "S") (lastTextOnly 1 1 calls))
      (Excel.ofSetup .absent)
    run.1 = .ok () ∧ lastSet "S" run.2.events 1 1 .numberFormat = some (.numberFormat "@") ∧
      run'.1 = .ok () ∧ lastSet "S" run'.2.events 1 1 .numberFormat = none := by
  decide

end SetterCall

end WorkbookTools
