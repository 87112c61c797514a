import WorkbookTools.Proofs.Workbook.Readable
import WorkbookTools.Proofs.Workspace.Successes

/-!
# Batches settle attributes by their last mentions

A batch that the file engine has carried out is in the file: when the workbook is loaded again, each
attribute of a cell is what the last instruction that is addressed to the cell and mentions the
attribute gives alone on the original cell. Everything else is as it was before.

Main statement: `batch_settles_last_mentions`.
-/

namespace WorkbookTools

open WorkbookTools.Action CellEdit FileSystem

/-! ## One cell -/

/-- The new cell is the old one, but for the last mention of each attribute. The content and the
size of the font are claimed where saving and loading gives them back. -/
structure Cell.FollowsMentions (autoFormula : Bool) (edits : List CellEdit) (old new : Cell) :
    Prop where
  field : ∀ f, (f = .content → (alone autoFormula old (lastMention edits f)).HasLastingContent) →
    new.field f = (alone autoFormula old (lastMention edits f)).field f
  rest : new.rest = old.rest
  size : old.HasLastingSize → new.style.font.size = old.style.font.size

theorem CellEdit.rest_alone_lastMention (autoFormula : Bool) (edits : List CellEdit) (c : Cell)
    (f : EditField) : (alone autoFormula c (lastMention edits f)).rest = c.rest := by
  cases hlast : lastMention edits f with
  | none => rfl
  | some u =>
    obtain ⟨e, -, hmention⟩ := mem_of_lastMention hlast
    rw [← hmention]
    exact (alone_keeps autoFormula e f c).2.1

/-- A cell to which edits have been applied and which then has been saved and loaded. -/
theorem Cell.followsMentions_of_reloads {autoFormula : Bool} {edits : List CellEdit}
    {old new : Cell} (htaken : ∀ e ∈ edits, IsTaken autoFormula e)
    (h : Cell.Reloads (edits.foldl (applyTo autoFormula) old) new) :
    Cell.FollowsMentions autoFormula edits old new := by
  obtain ⟨hrest, hsize⟩ := foldl_keeps autoFormula edits old
  refine ⟨fun f hlasting => ?_, h.rest.trans hrest, fun hold => ?_⟩
  · have hfield := field_foldl htaken old f
    rw [← hfield]
    refine h.field f fun hcontent => ?_
    subst hcontent
    refine (hlasting rfl).congr hfield ?_
    rw [hrest, rest_alone_lastMention]
  · rw [h.size, hsize hold]
    rw [Cell.HasLastingSize, hsize hold]
    exact hold

/-! ## The sheets of a workbook -/

namespace Workbook

/-- The cells of a workbook in which one sheet was edited before it was saved and loaded. -/
theorem followsMentions_of_reloads {autoFormula : Bool} {edits : List CellEdit}
    {book after : Workbook} {title : String} {sheet edited : Sheet}
    (hfind : findSheet title book.sheets = some sheet) (htaken : ∀ e ∈ edits, IsTaken autoFormula e)
    (hcells : ∀ i j, edited.cellAt i j =
      (edits.filter (·.isAt i j)).foldl (applyTo autoFormula) (sheet.cellAt i j))
    (hreloads : List.Forall₂ SheetReloads (book.setSheet title edited).sheets after.sheets)
    (k : Nat) (name : String) (old : Sheet) (hk : book.sheets[k]? = some (name, old)) :
    ∃ new, after.sheets[k]? = some (name, new) ∧ ∀ i j,
      Cell.FollowsMentions autoFormula
        (if k = book.titles.idxOf title then edits.filter (·.isAt i j) else [])
        (old.cellAt i j) (new.cellAt i j) := by
  obtain ⟨new, hafter, hsheet, hcell⟩ := reloads_of_setSheet hfind hreloads hk
  refine ⟨new, hafter, fun i j => ?_⟩
  have hreload := hcell i j
  by_cases hindex : k = book.titles.idxOf title
  · obtain rfl := hsheet hindex
    rw [if_pos hindex] at hreload ⊢
    refine Cell.followsMentions_of_reloads (fun e he => htaken e (List.mem_of_mem_filter he)) ?_
    rw [← hcells i j]
    exact hreload
  · rw [if_neg hindex] at hreload ⊢
    exact Cell.followsMentions_of_reloads (by simp) hreload

end Workbook

/-! ## The file of a workbook -/

namespace Workspace

variable {policy : Option PathPolicy} {p : Path} {w w' : Workspace}

/-- No instruction of the batch assigns a character that markup must not have. -/
def PlainContents (edits : List CellEdit) : Prop :=
  ∀ e ∈ edits, ∀ text, e.content = some text → ∀ x ∈ text.toList, ¬ Markup.isForeign x

/-- After a batch that the file engine has carried out, the workbook that is loaded has the same
sheets. A cell of the sheet for which the batch was follows the last mentions of the instructions
that are addressed to it, and all other cells are as before. What is reported for an instruction are
the attributes that it mentions, in their fixed order, and one without content leaves all contents
alone. The workbook can be loaded if it was readable before, the contents are plain and the log
grows elsewhere. -/
theorem batch_settles_last_mentions (policy : Option PathPolicy) (r : SetCellsRequest)
    (w w' : Workspace) (answer : SetCellsResult) (before : Workbook)
    (hrun : result (setCells policy r) w = (.ok answer, w')) (hengine : answer.engine = .file)
    (hbefore : (result (load answer.path) w).1 = .ok before) :
    let edits := (Instruction.partition r.instructions).edits
    answer.applied = edits.map (fun e =>
        ⟨e.index, e.cell, EditField.all.filter fun f => (e.mention f).isSome⟩) ∧
      (∀ e ∈ edits, e.content = none → ∀ s s' applied,
        result (e.applyReported (Sheet.updater r.autoFormula)) s = (.ok applied, s') →
          ∀ i j, (s'.cellAt i j).field .content = (s.cellAt i j).field .content) ∧
      (before.IsReadable → PlainContents edits → LogElsewhere answer.path w →
        ∃ after, (result (load answer.path) w').1 = .ok after) ∧
      ∀ after, (result (load answer.path) w').1 = .ok after →
        after.titles = before.titles ∧
        ∀ k title old, before.sheets[k]? = some (title, old) →
          ∃ new, after.sheets[k]? = some (title, new) ∧ ∀ i j,
            Cell.FollowsMentions r.autoFormula
              (if k = before.titles.idxOf r.sheet then edits.filter (·.isAt i j) else [])
              (old.cellAt i j) (new.cellAt i j) := by
  intro edits
  rw [result_load] at hbefore ⊢
  obtain ⟨-, start, last, hstart, hedit, hlast⟩ := setCells_ok hrun hengine
  obtain ⟨book, sheet, edited, place, kept, hload, hsheet, hbody, hplace, hstored, hsaved⟩ :=
    editFile_ok hedit
  obtain rfl : book = before := hstart.growsByRecords.loaded_eq hbefore hload
  obtain ⟨happlied, htaken, hcells⟩ := Sheet.applyAll_ok hbody
  have hfind := Workbook.findSheet_of_sheet hsheet
  refine ⟨?_, fun e _ hcontent s s' applied h => Sheet.content_applyReported hcontent h,
    fun hreadable hplain hlog => ?_, fun after hafter => ?_⟩
  · rw [happlied]
    refine List.map_congr_left fun e _ => ?_
    rw [← CellEdit.fields_eq]
    rfl
  · have hedited : edited.IsReadable :=
      Sheet.IsReadable.applyAll (hreadable.sheets _ (Workbook.mem_of_findSheet hfind)) hplain hbody
    obtain ⟨hfault, after, hread⟩ :=
      Workbook.read_of_isReadable (hreadable.setSheet hedited r.sheet) hstored
    obtain ⟨_, _, hcontent, -⟩ := loaded_ok hbefore
    obtain ⟨target, hlead, -⟩ := read_ok hcontent
    obtain ⟨-, hold⟩ := writeTarget_ok hplace
    have hsavedLinks := hstart.sameLinks.trans (sameLinks_set_file hold (.workbook kept))
    have hsavedLog : LogElsewhere answer.path
        { start with files := start.files.set place (.file (.workbook kept)) } :=
      hlog.of_sameLinks hlead hsavedLinks hstart.logFile_eq
    have hlastLog := hlog.of_sameLinks hlead (hsavedLinks.trans hsaved.sameLinks)
      (hsaved.logFile_eq.trans hstart.logFile_eq)
    refine ⟨after, ?_⟩
    rw [hlast.loaded_eq hlastLog, hsaved.loaded_eq hsavedLog]
    exact loaded_saved hload hplace hfault hread
  · obtain ⟨stored, more, hread, hbook⟩ :=
      (hsaved.growsByRecords.trans hlast.growsByRecords).loaded_ok hafter
    obtain rfl : stored = kept := by
      have hwritten := read_written hplace hread
      cases hwritten
      rfl
    have hreloads := Workbook.reloads_of_stored hstored hbook
    have htitles : after.titles = (book.setSheet r.sheet edited).titles :=
      Workbook.titles_of_reloads hreloads
    exact ⟨htitles.trans (Workbook.titles_replaceSheet r.sheet edited book.sheets),
      Workbook.followsMentions_of_reloads hfind htaken hcells hreloads⟩

/-! ## One batch, four instructions -/

def titledBook : Workbook :=
  ⟨[("Sheet1", Sheet.empty.setCell 1 1 (Cell.empty.update false (.text "old")).2)]⟩

/-- The workbook in a file, in a file system that holds nothing else. -/
def titledWorkspace : Workspace :=
  .ofFiles
    ⟨[(["book.xlsx"], .file (match titledBook.stored with
      | .ok stored => .workbook stored
      | .error _ => .unfinished))]⟩
    .absent

/-- The request for a batch of which three instructions are addressed to the same cell. -/
def titleRequest : SetCellsRequest :=
  ⟨Path.ofText "/book.xlsx", "Sheet1", ["'first'@A1#B", "'last'@A1#I", "'lost'A1", "@A1#b"],
    .only .file, false⟩

theorem isReadable_titledBook : titledBook.IsReadable := by
  have hcell : (Cell.empty.update false (.text "old")).2.IsReadable := by
    refine Cell.isReadable_update Cell.isReadable_empty (fun s hs => ?_) (by decide +kernel)
    cases hs
    exact List.find?_eq_none.mp (by decide +kernel)
  have hempty : Sheet.empty.IsReadable := by
    intro row columns hcolumns
    cases hcolumns
  constructor
  · intro title htitle
    rw [List.mem_singleton.mp htitle]
    exact List.find?_eq_none.mp (by decide +kernel)
  · intro p hp
    rw [List.mem_singleton.mp hp]
    exact hempty.setCell hcell 1 1

/-- The last content and the last word on bold win; nobody else spoke of italic. -/
theorem last_title_wins :
    ∃ answer w', result (setCells none titleRequest) titledWorkspace = (.ok answer, w') ∧
      answer.engine = .file ∧
      (result (load answer.path) titledWorkspace).1 = .ok titledBook ∧
      ∃ after new, (result (load answer.path) w').1 = .ok after ∧
        after.sheets[0]? = some ("Sheet1", new) ∧
        (new.cellAt 1 1).field .content = .content (some (.text, .text "last")) ∧
        (new.cellAt 1 1).field .bold = .flag false ∧
        (new.cellAt 1 1).field .italic = .flag true := by
  have hrun : (result (setCells none titleRequest) titledWorkspace).1.map
      (fun answer => (answer.engine, answer.path)) = .ok (.file, Path.ofText "/book.xlsx") := by
    decide +kernel
  obtain ⟨answer, hanswer, hengine⟩ := map_eq_ok.mp hrun
  obtain ⟨hfile, hpath⟩ := Prod.mk.inj hengine
  have hbefore : (result (load answer.path) titledWorkspace).1 = .ok titledBook := by
    rw [hpath]
    decide +kernel
  have hplain : PlainContents (Instruction.partition titleRequest.instructions).edits := by
    have hall : (Instruction.partition titleRequest.instructions).edits.all
        (fun e => (e.content.getD "").toList.all fun x => !Markup.isForeign x) = true := by
      decide +kernel
    intro e he text htext x hx
    have hcontent := List.all_eq_true.mp hall e he
    rw [htext, Option.getD_some] at hcontent
    simpa using List.all_eq_true.mp hcontent x hx
  obtain ⟨w', hresult⟩ : ∃ w', result (setCells none titleRequest) titledWorkspace =
      (.ok answer, w') := ⟨_, by rw [← hanswer]⟩
  obtain ⟨-, -, hloads, hcells⟩ := batch_settles_last_mentions none titleRequest titledWorkspace w'
    answer titledBook hresult hfile hbefore
  obtain ⟨after, hafter⟩ := hloads isReadable_titledBook hplain fun f hf => by cases hf
  obtain ⟨-, hsheets⟩ := hcells after hafter
  obtain ⟨new, hnew, hfollows⟩ := hsheets 0 "Sheet1" _ rfl
  obtain ⟨hfield, -, -⟩ := hfollows 1 1
  refine ⟨answer, w', hresult, hfile, hbefore, after, new, hafter, hnew, ?_, ?_, ?_⟩
  · rw [hfield .content fun _ => by decide +kernel]
    decide +kernel
  · rw [hfield .bold (by simp)]
    decide +kernel
  · rw [hfield .italic (by simp)]
    decide +kernel

end Workspace

end WorkbookTools
