import WorkbookTools.Proofs.Workspace.EditSteps

/-!
# Calls one after another

What a call makes of a workbook depends on the content of its file only. So a row of calls makes one
content after another of it, and each cell becomes what the calls make of it in turn, as far as
contents last when a workbook is saved and loaded.

* `RewrittenBy.cells`: the cells after a row of calls.
* `runAll_of`: a row of calls succeeds if there is a row of contents for it.
-/

namespace WorkbookTools

open WorkbookTools.Action FileSystem

/-! ## One cell -/

namespace Cell

variable {c d e : Cell} {change : Cell → Cell} {autoFormula : Bool}

/-- What lasts of the cell is there still, but for the size of its font. -/
structure LastsIn (c d : Cell) : Prop where
  field : ∀ f, (f = .content → c.HasLastingContent) → d.field f = c.field f
  rest : d.rest = c.rest

theorem Reloads.lastsIn (h : Reloads c d) : LastsIn c d := ⟨h.field, h.rest⟩

theorem LastsIn.refl (c : Cell) : LastsIn c c := ⟨fun _ _ => rfl, rfl⟩

theorem LastsIn.trans (h : LastsIn c d) (h' : LastsIn d e) : LastsIn c e := by
  refine ⟨fun f hf => ?_, h'.rest.trans h.rest⟩
  have hlasting : f = .content → d.HasLastingContent := by
    rintro rfl
    exact (hf rfl).congr (h.field .content hf) h.rest
  rw [h'.field f hlasting, h.field f hf]

/-- The change decides an attribute, whatever the cell was before, or leaves it alone. -/
structure ActsByField (change : Cell → Cell) : Prop where
  field : ∀ f, (∀ c d, (change c).field f = (change d).field f) ∨
    ∀ c, (change c).field f = c.field f
  rest : ∀ c, (change c).rest = c.rest

theorem actsByField_id : ActsByField id := ⟨fun _ => .inr fun _ => rfl, fun _ => rfl⟩

theorem LastsIn.map (h : LastsIn c d) (hchange : ActsByField change) :
    LastsIn (change c) (change d) := by
  refine ⟨fun f hf => ?_, by rw [hchange.rest, hchange.rest, h.rest]⟩
  rcases hchange.field f with hdecides | hleaves
  · exact hdecides d c
  · rw [hleaves, hleaves]
    refine h.field f ?_
    rintro rfl
    exact (hf rfl).congr (hleaves c).symm (hchange.rest c).symm

/-- Whether a value is refused does not depend on the cell. -/
theorem write_outcome (c d : Cell) (v : CellValue) :
    (c.write autoFormula v).1 = (d.write autoFormula v).1 := by
  cases v with
  | text s => exact update_text_outcome autoFormula c d s
  | _ => rfl

/-- A value that is not refused makes the content, whatever the cell was before. -/
theorem exists_overwritten_eq {v : Scalar}
    (htaken : (empty.write autoFormula v.toCellValue).1 = .ok ()) :
    ∃ kind value, ∀ c : Cell,
      c.overwritten autoFormula (some v) = { c with kind := kind, value := value } := by
  cases v with
  | text s =>
    have htext : (empty.update autoFormula (.text s)).1 = .ok () := htaken
    rw [update_text] at htext
    by_cases hillegal : (String.ofList (s.toList.take maxTextLength)).toList.any isIllegal
    · simp only [if_pos hillegal] at htext
      cases htext
    · refine ⟨if looksLikeFormula s ∧ ¬ autoFormula then .text
          else kindOfText (String.ofList (s.toList.take maxTextLength)),
        .text (String.ofList (s.toList.take maxTextLength)), fun c => ?_⟩
      have hupdate := update_text autoFormula c s
      simp only [if_neg hillegal] at hupdate
      exact congrArg Prod.snd hupdate
  | null => exact ⟨.number, .empty, fun c => rfl⟩
  | boolean b => exact ⟨.boolean, .boolean b, fun c => rfl⟩
  | integer n => exact ⟨.number, .integer n, fun c => rfl⟩
  | number x => exact ⟨.number, .number x, fun c => rfl⟩

/-- A value that is not refused decides the content. -/
theorem actsByField_overwritten {v? : Option Scalar}
    (htaken : ∀ v, v? = some v → (empty.write autoFormula v.toCellValue).1 = .ok ()) :
    ActsByField fun c => c.overwritten autoFormula v? := by
  cases v? with
  | none => exact actsByField_id
  | some v =>
    obtain ⟨kind, value, hwrite⟩ := exists_overwritten_eq (htaken v rfl)
    simp only [hwrite]
    refine ⟨fun f => ?_, fun c => rfl⟩
    cases f with
    | content => exact .inl fun _ _ => rfl
    | _ => exact .inr fun _ => rfl

/-- Edits that are not refused decide what they mention. -/
theorem actsByField_foldl {edits : List CellEdit}
    (htaken : ∀ e ∈ edits, CellEdit.IsTaken autoFormula e) :
    ActsByField fun c => edits.foldl (CellEdit.applyTo autoFormula) c := by
  refine ⟨fun f => ?_, fun c => (CellEdit.foldl_keeps autoFormula edits c).1⟩
  simp only [CellEdit.field_foldl htaken]
  cases hlast : CellEdit.lastMention edits f with
  | none => exact .inr fun _ => rfl
  | some u =>
    obtain ⟨e, he, hmention⟩ := CellEdit.mem_of_lastMention hlast
    exact .inl fun c d => CellEdit.field_alone_of_some (htaken e he) hmention c d

end Cell

/-! ## Blocks that are written -/

namespace Sheet

variable {autoFormula : Bool} {s s' : Sheet} {row column : Nat}

theorem writeRow_taken {values : List Scalar}
    (h : s.writeRow autoFormula row column values = (.ok (), s')) :
    ∀ v ∈ values, (Cell.empty.write autoFormula v.toCellValue).1 = .ok () := by
  induction values generalizing s column with
  | nil => exact fun v hv => nomatch hv
  | cons v rest ih =>
    unfold writeRow at h
    split at h
    · next written hwrite =>
      obtain ⟨hok, -⟩ := edit_ok hwrite
      refine List.forall_mem_cons.mpr ⟨?_, ih h⟩
      rw [Cell.write_outcome Cell.empty (s.cellAt row column), hok]
    · next hfailed => exact absurd h (hfailed s')

/-- No value of a block that has been written was refused. -/
theorem writeBlock_taken {rows : List (List Scalar)}
    (h : s.writeBlock autoFormula column row rows = (.ok (), s')) :
    ∀ values ∈ rows, ∀ v ∈ values, (Cell.empty.write autoFormula v.toCellValue).1 = .ok () := by
  induction rows generalizing s row with
  | nil => exact fun values hvalues => nomatch hvalues
  | cons values rest ih =>
    unfold writeBlock at h
    split at h
    · next written hwrite => exact List.forall_mem_cons.mpr ⟨writeRow_taken hwrite, ih h⟩
    · next hfailed => exact absurd h (hfailed s')

end Sheet

namespace Workspace

variable {policy : Option PathPolicy} {p : Path} {w w' : Workspace} {edit : FileEdit}
  {content content' : Content}

/-! ## One call on one sheet -/

namespace FileEdit

/-- What the call makes of a cell of its sheet. -/
def onCell (edit : FileEdit) (i j : Nat) (c : Cell) : Cell :=
  match edit with
  | .block r => c.overwritten r.autoFormula (r.value? i j)
  | .batch r => ((Instruction.partition r.instructions).edits.filter (·.isAt i j)).foldl
      (CellEdit.applyTo r.autoFormula) c

/-- The call has something to write to a cell of its sheet. -/
def WritesCell (edit : FileEdit) (i j : Nat) : Prop :=
  match edit with
  | .block r => ∃ v, r.value? i j = some v
  | .batch r => ∃ e ∈ (Instruction.partition r.instructions).edits, e.isAt i j

theorem onCell_of_not_writesCell {i j : Nat} (h : ¬ edit.WritesCell i j) (c : Cell) :
    edit.onCell i j c = c := by
  cases edit with
  | block r =>
    have hnone : r.value? i j = none := Option.eq_none_iff_forall_ne_some.mpr fun v hv => h ⟨v, hv⟩
    rw [onCell, hnone]
    rfl
  | batch r =>
    have hnone : (Instruction.partition r.instructions).edits.filter (·.isAt i j) = [] :=
      List.filter_eq_nil_iff.mpr fun e he hat => h ⟨e, he, hat⟩
    rw [onCell, hnone]
    rfl

theorem EditsSheet.cellAt {s s' : Sheet} (h : edit.EditsSheet s s') (i j : Nat) :
    s'.cellAt i j = edit.onCell i j (s.cellAt i j) := by
  cases edit with
  | block r => exact Sheet.writeBlock_ok h i j
  | batch r =>
    obtain ⟨applied, h⟩ := h
    exact (Sheet.applyAll_ok h).2.2 i j

theorem EditsSheet.actsByField {s s' : Sheet} (h : edit.EditsSheet s s') (i j : Nat) :
    Cell.ActsByField (edit.onCell i j) := by
  cases edit with
  | block r =>
    refine Cell.actsByField_overwritten fun v hv => ?_
    obtain ⟨values, hvalues, hmem⟩ := WriteRangeRequest.exists_of_value? hv
    exact Sheet.writeBlock_taken h values hvalues v hmem
  | batch r =>
    obtain ⟨applied, h⟩ := h
    obtain ⟨-, htaken, -⟩ := Sheet.applyAll_ok h
    exact Cell.actsByField_foldl fun e he => htaken e (List.mem_of_mem_filter he)

/-- What the call makes of a cell of the sheet with the index, among sheets with the titles. -/
def changed (edit : FileEdit) (titles : List String) (k i j : Nat) (c : Cell) : Cell :=
  if k = titles.idxOf edit.sheet then edit.onCell i j c else c

/-- The call has something to write to the cell of the sheet with the index. -/
def Writes (edit : FileEdit) (titles : List String) (k i j : Nat) : Prop :=
  k = titles.idxOf edit.sheet ∧ edit.WritesCell i j

theorem changed_of_not_writes {titles : List String} {k i j : Nat}
    (h : ¬ edit.Writes titles k i j) (c : Cell) : edit.changed titles k i j c = c := by
  unfold changed
  split
  · next hsheet => exact onCell_of_not_writesCell (fun hcell => h ⟨hsheet, hcell⟩) c
  · rfl

end FileEdit

/-! ## Contents of the file -/

/-- The workbook that is loaded from a path if the file holds the content. -/
def bookIn (p : Path) (content : Content) : Except Error Workbook :=
  match opened p (.ok content) with
  | .error e => .error e
  | .ok book => book.read.mapError (loadFailure p)

theorem loaded_eq_bookIn {files : FileSystem Content} (h : files.read p = .ok content) :
    loaded p files = bookIn p content := by
  rw [loaded, h]
  rfl

/-- What the call makes of the content of the file. -/
def Rewrites (p : Path) (edit : FileEdit) (content content' : Content) : Prop :=
  ∃ book book' kept, bookIn p content = .ok book ∧ edit.Revises book book' ∧
    book'.stored = .ok kept ∧ content' = .workbook kept

/-- What the calls make of the content of the file, one after another. -/
def RewrittenBy (p : Path) : List FileEdit → Content → Content → Prop
  | [], content, content' => content' = content
  | edit :: rest, content, content' =>
    ∃ between, Rewrites p edit content between ∧ RewrittenBy p rest between content'

theorem RewrittenBy.snoc {edits : List FileEdit} {between : Content}
    (h : RewrittenBy p edits content between) (hlast : Rewrites p edit between content') :
    RewrittenBy p (edits ++ [edit]) content content' := by
  induction edits generalizing content with
  | nil =>
    obtain rfl : between = content := h
    exact ⟨content', hlast, rfl⟩
  | cons first rest ih =>
    obtain ⟨next, hfirst, hrest⟩ := h
    exact ⟨next, hfirst, ih hrest⟩

/-- Whoever can load the last content could load the ones before it. -/
theorem RewrittenBy.bookIn_ok {edits : List FileEdit} {after : Workbook}
    (h : RewrittenBy p edits content content') (hafter : bookIn p content' = .ok after) :
    ∃ book, bookIn p content = .ok book := by
  cases edits with
  | nil =>
    obtain rfl : content' = content := h
    exact ⟨after, hafter⟩
  | cons first rest =>
    obtain ⟨_, ⟨book, -, -, hbook, -⟩, -⟩ := h
    exact ⟨book, hbook⟩

/-- The cells after one call. -/
theorem Rewrites.cells {before after : Workbook} (h : Rewrites p edit content content')
    (hbefore : bookIn p content = .ok before) (hafter : bookIn p content' = .ok after) :
    (∀ titles k i j, Cell.ActsByField (edit.changed titles k i j)) ∧
      after.titles = before.titles ∧
      ∀ (k : Nat) (name : String) (old : Sheet), before.sheets[k]? = some (name, old) →
        ∃ new : Sheet, after.sheets[k]? = some (name, new) ∧ ∀ i j,
          Cell.LastsIn (edit.changed before.titles k i j (old.cellAt i j)) (new.cellAt i j) := by
  obtain ⟨book, _, kept, hbook, ⟨s, s', hsheet, hedits, rfl⟩, hstored, rfl⟩ := h
  obtain rfl := Except.ok.inj (hbook.symm.trans hbefore)
  have hread : kept.read = .ok after := by
    unfold bookIn at hafter
    split at hafter
    · cases hafter
    · next found hopened =>
      obtain ⟨_, hcontent, hopen⟩ := opened_ok hopened
      cases hcontent
      cases hopen
      exact mapError_eq_ok.mp hafter
  have hfind := Workbook.findSheet_of_sheet hsheet
  have hreloads := Workbook.reloads_of_stored hstored hread
  refine ⟨fun titles k i j => ?_, ?_, fun k name old hk => ?_⟩
  · unfold FileEdit.changed
    split
    · exact hedits.actsByField i j
    · exact Cell.actsByField_id
  · exact (Workbook.titles_of_reloads hreloads).trans (Workbook.titles_replaceSheet _ _ _)
  · obtain ⟨new, hnew, hsame, hcell⟩ := Workbook.reloads_of_setSheet hfind hreloads hk
    refine ⟨new, hnew, fun i j => ?_⟩
    have hreload := (hcell i j).lastsIn
    unfold FileEdit.changed
    by_cases hindex : k = book.titles.idxOf edit.sheet
    · rw [if_pos hindex] at hreload ⊢
      rwa [hsame hindex, ← hedits.cellAt]
    · rwa [if_neg hindex] at hreload ⊢

/-- What the calls make of a cell, one after another. -/
def changedBy (edits : List FileEdit) (titles : List String) (k i j : Nat) (c : Cell) : Cell :=
  edits.foldl (fun c edit => edit.changed titles k i j c) c

theorem lastsIn_changedBy {edits : List FileEdit} {titles : List String} {k i j : Nat} {c d : Cell}
    (hacts : ∀ edit ∈ edits, Cell.ActsByField (FileEdit.changed edit titles k i j))
    (h : Cell.LastsIn c d) :
    Cell.LastsIn (changedBy edits titles k i j c) (changedBy edits titles k i j d) := by
  induction edits generalizing c d with
  | nil => exact h
  | cons first rest ih =>
    obtain ⟨hfirst, hrest⟩ := List.forall_mem_cons.mp hacts
    exact ih hrest (h.map hfirst)

theorem changedBy_of_not_writes {edits : List FileEdit} {titles : List String} {k i j : Nat}
    (h : ∀ other ∈ edits, ¬ FileEdit.Writes other titles k i j) (c : Cell) :
    changedBy edits titles k i j c = c := by
  induction edits generalizing c with
  | nil => rfl
  | cons first rest ih =>
    obtain ⟨hfirst, hrest⟩ := List.forall_mem_cons.mp h
    rw [changedBy, List.foldl_cons, FileEdit.changed_of_not_writes hfirst]
    exact ih hrest c

/-- If only one of the calls writes to a cell, it alone decides what becomes of the cell. -/
theorem changedBy_of_only {ι : Type} {edits : ι → FileEdit} {order : List ι} {writer : ι}
    {titles : List String} {k i j : Nat} (hnodup : order.Nodup) (hwriter : writer ∈ order)
    (honly : ∀ other ∈ order, other ≠ writer → ¬ (edits other).Writes titles k i j) (c : Cell) :
    changedBy (order.map edits) titles k i j c = (edits writer).changed titles k i j c := by
  induction order with
  | nil => cases hwriter
  | cons first rest ih =>
    obtain ⟨hfirst, hrest⟩ := List.nodup_cons.mp hnodup
    rw [List.map_cons, changedBy, List.foldl_cons]
    rcases List.mem_cons.mp hwriter with rfl | hlater
    · refine changedBy_of_not_writes (List.forall_mem_map.mpr fun other hother => ?_) _
      exact honly other (List.mem_cons_of_mem _ hother) fun hsame => hfirst (hsame ▸ hother)
    · have hne : first ≠ writer := fun hsame => hfirst (hsame ▸ hlater)
      rw [FileEdit.changed_of_not_writes (honly first List.mem_cons_self hne)]
      exact ih hrest hlater fun other hother => honly other (List.mem_cons_of_mem _ hother)

/-- The cells after a row of calls: what lasts of what the calls make of the cells that were there
before. -/
theorem RewrittenBy.cells {edits : List FileEdit} {before after : Workbook}
    (h : RewrittenBy p edits content content') (hbefore : bookIn p content = .ok before)
    (hafter : bookIn p content' = .ok after) :
    (∀ titles k i j, ∀ edit ∈ edits, Cell.ActsByField (FileEdit.changed edit titles k i j)) ∧
      after.titles = before.titles ∧
      ∀ (k : Nat) (name : String) (old : Sheet), before.sheets[k]? = some (name, old) →
        ∃ new : Sheet, after.sheets[k]? = some (name, new) ∧ ∀ i j,
          Cell.LastsIn (changedBy edits before.titles k i j (old.cellAt i j)) (new.cellAt i j) := by
  induction edits generalizing content before with
  | nil =>
    obtain rfl : content' = content := h
    obtain rfl := Except.ok.inj (hbefore.symm.trans hafter)
    exact ⟨fun _ _ _ _ => nofun, rfl, fun k name old hk => ⟨old, hk, fun i j => Cell.LastsIn.refl _⟩⟩
  | cons first rest ih =>
    obtain ⟨content₁, hfirst, hrest⟩ := h
    obtain ⟨book, hbook⟩ := hrest.bookIn_ok hafter
    obtain ⟨hacts, htitles, hcells⟩ := hfirst.cells hbefore hbook
    obtain ⟨hactsRest, htitlesRest, hcellsRest⟩ := ih hrest hbook
    refine ⟨fun titles k i j => List.forall_mem_cons.mpr ⟨hacts titles k i j, hactsRest titles k i j⟩,
      htitlesRest.trans htitles, fun k name old hk => ?_⟩
    obtain ⟨next, hnext, hlasts⟩ := hcells k name old hk
    obtain ⟨new, hnew, hlastsRest⟩ := hcellsRest k name next hnext
    refine ⟨new, hnew, fun i j => ?_⟩
    have hlast := hlastsRest i j
    rw [htitles] at hlast
    exact (lastsIn_changedBy (hactsRest _ k i j) (hlasts i j)).trans hlast

/-! ## Calls one after another -/

/-- The calls, each after the one before it has ended. -/
def runAll (policy : Option PathPolicy) : List FileEdit → Action Unit
  | [] => pure ()
  | edit :: rest => do
    edit.run policy
    runAll policy rest

/-- In the setting of the workspace, the file engine carries out the call on the workbook under the
path if the call fits its content. -/
structure IsReady (policy : Option PathPolicy) (p : Path) (w : Workspace) (edit : FileEdit) :
    Prop where
  engine : edit.AlwaysUsesFiles w.excel.setup
  prepared : ∃ x x' d, SameSetting x w ∧ result (edit.prepare policy) x = (.ok d, x') ∧ d.path = p

theorem IsReady.of_sameSetting (h : IsReady policy p w edit) (hsetting : SameSetting w w') :
    IsReady policy p w' edit := by
  obtain ⟨hengine, x, x', d, hx, hprepare, hpath⟩ := h
  exact ⟨hsetting.setup_eq ▸ hengine, x, x', d, hx.trans hsetting, hprepare, hpath⟩

/-- A call that is ready succeeds on a content that it fits. -/
theorem run_of {place : Location} (hready : IsReady policy p w edit) (hlog : LogElsewhere p w)
    (hplace : w.files.writeTarget p = .ok place) (hread : w.files.read p = .ok content)
    (hrewrites : Rewrites p edit content content') :
    ∃ w', result (edit.run policy) w = (.ok (), w') ∧ SameSetting w w' ∧
      w'.files.read p = .ok content' := by
  obtain ⟨hengine, x, x', d₀, hx, hprepared, rfl⟩ := hready
  obtain ⟨book, book', kept, hbook, hrevises, hstored, rfl⟩ := hrewrites
  rw [← loaded_eq_bookIn hread] at hbook
  have hsetup : edit.AlwaysUsesFiles x.excel.setup := hx.setup_eq ▸ hengine
  obtain ⟨d, next, hprepare, hpath, rfl⟩ := prepare_of hprepared hx hsetup hlog hbook hrevises
  rw [← hpath] at hlog hread hplace ⊢
  obtain ⟨hspares, -⟩ := prepare_ok hprepare hlog
  have hnext : next.files.writeTarget d.path = .ok place := by
    rw [← hspares.setting.shape.writeTarget_eq, hplace]
  obtain ⟨w', hcomplete⟩ := complete_of hnext hstored
  have hkept : next.files.read d.path = .ok content := (hspares.read_eq hlog).trans hread
  obtain ⟨kept', -, hstored', -, hsetting, hsaved⟩ :=
    complete_ok hcomplete hkept (hspares.setting.logElsewhere hlog)
  obtain rfl := Except.ok.inj (hstored.symm.trans hstored')
  refine ⟨w', ?_, hspares.setting.trans hsetting, hsaved⟩
  rw [FileEdit.run_eq_steps (hengine w.excel rfl)]
  exact bind_ok.mpr ⟨d, next, hprepare, hcomplete⟩

/-- Calls that are ready succeed one after another if there is a row of contents for them. -/
theorem runAll_of {edits : List FileEdit} {place : Location}
    (hready : ∀ edit ∈ edits, IsReady policy p w edit) (hlog : LogElsewhere p w)
    (hplace : w.files.writeTarget p = .ok place) (hread : w.files.read p = .ok content)
    (hrewritten : RewrittenBy p edits content content') :
    ∃ w', result (runAll policy edits) w = (.ok (), w') ∧ w'.files.read p = .ok content' := by
  induction edits generalizing w content with
  | nil =>
    obtain rfl : content' = content := hrewritten
    exact ⟨w, rfl, hread⟩
  | cons first rest ih =>
    obtain ⟨between, hfirst, hrest⟩ := hrewritten
    obtain ⟨hreadyFirst, hreadyRest⟩ := List.forall_mem_cons.mp hready
    obtain ⟨next, hrun, hsetting, hnext⟩ := run_of hreadyFirst hlog hplace hread hfirst
    have hplaceNext : next.files.writeTarget p = .ok place := by
      rw [← hsetting.shape.writeTarget_eq, hplace]
    obtain ⟨w', hrunRest, hlast⟩ := ih (fun edit hedit => (hreadyRest edit hedit).of_sameSetting hsetting)
      (hsetting.logElsewhere hlog) hplaceNext hnext hrest
    exact ⟨w', bind_ok.mpr ⟨(), next, hrun, hrunRest⟩, hlast⟩

end Workspace

end WorkbookTools
