import WorkbookTools.Proofs.Workspace.Saving

/-!
# The file of the log

Records are added to the log's file, if there is one, whatever this file holds. A workbook in
another file is not concerned; one in the log's file is still the same workbook as long as it can
be loaded.

* `OnlyLogs.loaded_eq`: a workbook beside the log loads as before.
* `GrowsByRecords.loaded_eq`: a workbook in the log's file loads as before or not at all.
-/

namespace WorkbookTools.Workspace

open WorkbookTools.Action FileSystem

variable {p : Path} {w w' w'' : Workspace}

/-! ## Records in a file -/

theorem writeRecords_cases (f : LogFile) (records : List LogRecord)
    (files : FileSystem Content) :
    writeRecords f records files = files ∨
      ∃ content more, files.entryAt f.place = some (.file content) ∧
        writeRecords f records files = files.set f.place (.file (content.extended more)) := by
  unfold writeRecords
  simp only
  split
  · next content hcontent => exact .inr ⟨content, _, hcontent, rfl⟩
  · exact .inl rfl

theorem extended_extended (content : Content) (s t : String) :
    (content.extended s).extended t = content.extended (s ++ t) := by
  cases content <;> simp [Content.extended, String.append_assoc]

/-- What is read afterwards was read before, but for records that may have been added to it. -/
def GrowsByRecords (files files' : FileSystem Content) : Prop :=
  ∀ p content, files'.read p = .ok content →
    ∃ before more, files.read p = .ok before ∧ content = before.extended more

theorem GrowsByRecords.refl (files : FileSystem Content) : GrowsByRecords files files := by
  intro p content hread
  refine ⟨content, "", hread, ?_⟩
  cases content <;> simp [Content.extended]

theorem GrowsByRecords.trans {files files' files'' : FileSystem Content}
    (h : GrowsByRecords files files') (h' : GrowsByRecords files' files'') :
    GrowsByRecords files files'' := by
  intro p content hread
  obtain ⟨between, more', hbetween, rfl⟩ := h' p content hread
  obtain ⟨before, more, hbefore, rfl⟩ := h p between hbetween
  exact ⟨before, more ++ more', hbefore, extended_extended before more more'⟩

theorem growsByRecords_writeRecords (f : LogFile) (records : List LogRecord)
    (files : FileSystem Content) : GrowsByRecords files (writeRecords f records files) := by
  rcases writeRecords_cases f records files with hsame | ⟨old, more, hold, hset⟩
  · rw [hsame]
    exact GrowsByRecords.refl files
  · rw [hset]
    intro p content hread
    obtain ⟨before, hbefore, rfl | ⟨rfl, rfl⟩⟩ := read_set_file_ok hold hread
    · exact GrowsByRecords.refl files p content hbefore
    · exact ⟨before, more, hbefore, rfl⟩

/-- Records in its file do not change a workbook that can still be loaded. -/
theorem GrowsByRecords.opened_ok {files files' : FileSystem Content} {stored : StoredWorkbook}
    (h : GrowsByRecords files files') (hopened : opened p (files'.read p) = .ok stored) :
    ∃ more, files.read p = .ok (.archive (some stored) more) := by
  obtain ⟨content, hread, hbook⟩ := Workspace.opened_ok hopened
  obtain ⟨more, rfl⟩ := openBook_ok hbook
  obtain ⟨before, added, hbefore, hsame⟩ := h p _ hread
  cases before with
  | text s => cases hsame
  | archive book? old =>
    cases hsame
    exact ⟨old, hbefore⟩

theorem GrowsByRecords.loaded_ok {files files' : FileSystem Content} {book : Workbook}
    (h : GrowsByRecords files files') (hload : loaded p files' = .ok book) :
    ∃ stored more, files.read p = .ok (.archive (some stored) more) ∧ stored.read = .ok book := by
  unfold loaded at hload
  split at hload
  · cases hload
  · next stored hopened =>
    obtain ⟨more, hread⟩ := h.opened_ok hopened
    exact ⟨stored, more, hread, mapError_eq_ok.mp hload⟩

theorem GrowsByRecords.loaded_eq {files files' : FileSystem Content} {book book' : Workbook}
    (h : GrowsByRecords files files') (hload : loaded p files = .ok book)
    (hload' : loaded p files' = .ok book') : book' = book := by
  obtain ⟨stored, more, hread, hbook⟩ := Workspace.loaded_ok hload
  obtain ⟨stored', more', hread', hbook'⟩ := h.loaded_ok hload'
  rw [hread] at hread'
  cases hread'
  rw [hbook] at hbook'
  exact (Except.ok.inj hbook').symm

/-! ## A workbook beside the log -/

/-- The log does not grow in the file to which the path leads. -/
def LogElsewhere (p : Path) (w : Workspace) : Prop :=
  ∀ f, w.logFile = some f → ¬ LeadsTo w.files p f.place

theorem read_writeRecords {f : LogFile} {records : List LogRecord}
    {files : FileSystem Content} (hp : ¬ LeadsTo files p f.place) :
    (writeRecords f records files).read p = files.read p := by
  rcases writeRecords_cases f records files with hsame | ⟨content, more, hcontent, hset⟩
  · rw [hsame]
  · rw [hset, read_set_file hcontent _ hp]

/-- What can be read is read again, with the records behind it if they are added to its file. -/
theorem read_writeRecords_ok {f : LogFile} {records : List LogRecord}
    {files : FileSystem Content} {content : Content} (hread : files.read p = .ok content) :
    ∃ more, (writeRecords f records files).read p = .ok (content.extended more) := by
  have hsame : content.extended "" = content := by cases content <;> simp [Content.extended]
  by_cases hp : LeadsTo files p f.place
  · rcases writeRecords_cases f records files with hfiles | ⟨old, more, hold, hset⟩
    · exact ⟨"", by rw [hfiles, hread, hsame]⟩
    · obtain ⟨place, hlead, hentry⟩ := FileSystem.read_ok hread
      obtain rfl : place = f.place := hlead.mayLeadTo.unique hp.mayLeadTo
      cases hold.symm.trans hentry
      exact ⟨more, by rw [hset, read_set_of_leadsTo hread hp]⟩
  · exact ⟨"", by rw [read_writeRecords hp, hread, hsame]⟩

/-- The log stays elsewhere while no link changes. -/
theorem LogElsewhere.of_sameLinks {place : Location} (h : LogElsewhere p w)
    (hlead : LeadsTo w.files p place) (hlinks : SameLinks w.files w'.files)
    (hlogFile : w'.logFile = w.logFile) : LogElsewhere p w' := by
  intro f hf hlog
  have hsame : f.place = place :=
    (hlog.mayLeadTo.of_sameLinks hlinks.symm).unique hlead.mayLeadTo
  refine h f (by rw [← hlogFile, hf]) ?_
  rw [hsame]
  exact hlead

/-- Nothing has become of the files but that records were added to the log. -/
structure OnlyLogs (w w' : Workspace) : Prop where
  logFile_eq : w'.logFile = w.logFile
  files : w'.files = w.files ∨
    ∃ f records, w.logFile = some f ∧ w'.files = writeRecords f records w.files

namespace OnlyLogs

theorem of_eq (hlog : w'.logFile = w.logFile) (hfiles : w'.files = w.files) : OnlyLogs w w' :=
  ⟨hlog, .inl hfiles⟩

theorem report (records : List LogRecord) (w : Workspace) :
    OnlyLogs w (result (Workspace.report records) w).2 := by
  rw [result_report]
  refine ⟨rfl, ?_⟩
  cases hlog : w.logFile with
  | none => exact .inl rfl
  | some f => exact .inr ⟨f, records, rfl, rfl⟩

theorem of_report {records : List LogRecord} {x : Except Error Unit}
    (h : result (Workspace.report records) w = (x, w')) : OnlyLogs w w' := by
  have hreport := report records w
  rw [h] at hreport
  exact hreport

theorem read_eq (h : OnlyLogs w w') (hlog : LogElsewhere p w) :
    w'.files.read p = w.files.read p := by
  rcases h.files with hsame | ⟨f, records, hf, hwritten⟩
  · rw [hsame]
  · rw [hwritten]
    exact read_writeRecords (hlog f hf)

theorem loaded_eq (h : OnlyLogs w w') (hlog : LogElsewhere p w) :
    loaded p w'.files = loaded p w.files := by
  rw [loaded, loaded, h.read_eq hlog]

theorem read_ok {content : Content} (h : OnlyLogs w w') (hread : w.files.read p = .ok content) :
    ∃ more, w'.files.read p = .ok (content.extended more) := by
  rcases h.files with hsame | ⟨f, records, -, hwritten⟩
  · refine ⟨"", ?_⟩
    rw [hsame, hread]
    cases content <;> simp [Content.extended]
  · rw [hwritten]
    exact read_writeRecords_ok hread

theorem sameLinks (h : OnlyLogs w w') : SameLinks w.files w'.files := by
  rcases h.files with hsame | ⟨f, records, -, hwritten⟩
  · rw [hsame]
    exact SameLinks.refl w.files
  · rw [hwritten]
    rcases writeRecords_cases f records w.files with hsame | ⟨content, more, hold, hset⟩
    · rw [hsame]
      exact SameLinks.refl w.files
    · rw [hset]
      exact sameLinks_set_file (takesFile_of_file hold) _

theorem logElsewhere {content : Content} (h : OnlyLogs w w') (hread : w.files.read p = .ok content)
    (hlog : LogElsewhere p w) : LogElsewhere p w' := by
  obtain ⟨place, hlead, -⟩ := FileSystem.read_ok hread
  exact hlog.of_sameLinks hlead h.sameLinks h.logFile_eq

theorem growsByRecords (h : OnlyLogs w w') : GrowsByRecords w.files w'.files := by
  rcases h.files with hsame | ⟨f, records, -, hwritten⟩
  · rw [hsame]
    exact GrowsByRecords.refl w.files
  · rw [hwritten]
    exact growsByRecords_writeRecords f records w.files

end OnlyLogs

end WorkbookTools.Workspace
