import WorkbookTools.Proofs.Policy
import WorkbookTools.Proofs.Workspace.Log

/-!
# Confined actions

An action is confined to some places if it changes no file elsewhere, if its outcome and its effects
do not depend on what files elsewhere hold, and if every workbook that it has Excel open leads to
these places only. Two things are left out of account: directories may be created anywhere, and the
log grows in its own file.

The module follows this notion through the ways of building actions. A path that leads to the
places goes on to lead there in all that follows (`Confines.bind`), since no link is changed.
-/

namespace WorkbookTools.Workspace

open WorkbookTools.Action FileSystem

variable {α β : Type} {P : Location → Prop} {w w' w'' : Workspace} {p : Path}

/-! ## Confined changes -/

/-- What may become of an entry elsewhere: it stays, a directory is created, or the log grows. -/
inductive Kept (logFile : Option LogFile) (place : Location) :
    Option (Entry Content) → Option (Entry Content) → Prop
  | same (e : Option (Entry Content)) : Kept logFile place e e
  | newDirectory : Kept logFile place none (some .directory)
  | logged (f : LogFile) (content : Content) (more : String) (hlog : logFile = some f)
      (hplace : f.place = place) :
      Kept logFile place (some (.file content)) (some (.file (content.extended more)))

theorem Kept.trans {logFile : Option LogFile} {place : Location}
    {a b c : Option (Entry Content)} (h : Kept logFile place a b) (h' : Kept logFile place b c) :
    Kept logFile place a c := by
  cases h with
  | same => exact h'
  | newDirectory =>
    cases h'
    exact .newDirectory
  | logged f content more hlog hplace =>
    cases h' with
    | same => exact .logged f content more hlog hplace
    | logged _ _ further _ _ =>
      rw [extended_extended]
      exact .logged f content (more ++ further) hlog hplace

/-- Excel was asked to open only workbooks whose paths lead to the places. -/
def OpensWithin (P : Location → Prop) (fs : FileSystem Content) (before after : List ExcelEvent) :
    Prop :=
  ∃ events, after = before ++ events ∧ ∀ path readOnly, .openBook path readOnly ∈ events →
    ∃ p : Path, p.text = path ∧ LeadsWithin P fs p

/-- The change of the workspace is confined to the places. -/
structure ConfinedChange (P : Location → Prop) (w w' : Workspace) : Prop where
  grows : GrowsTo w.files w'.files
  kept : ∀ place, ¬ P place → Kept w.logFile place (w.files.entryAt place) (w'.files.entryAt place)
  logFile_eq : w'.logFile = w.logFile
  opens : OpensWithin P w.files w.excel.events w'.excel.events

theorem OpensWithin.refl (P : Location → Prop) (fs : FileSystem Content) (l : List ExcelEvent) :
    OpensWithin P fs l l :=
  ⟨[], by simp⟩

namespace ConfinedChange

theorem refl (P : Location → Prop) (w : Workspace) : ConfinedChange P w w :=
  ⟨GrowsTo.refl w.files, fun _ _ => .same _, rfl, OpensWithin.refl P _ _⟩

theorem trans (h : ConfinedChange P w w') (h' : ConfinedChange P w' w'') :
    ConfinedChange P w w'' := by
  refine ⟨h.grows.trans h'.grows, fun place hplace => ?_, h'.logFile_eq.trans h.logFile_eq, ?_⟩
  · have hnext := h'.kept place hplace
    rw [h.logFile_eq] at hnext
    exact (h.kept place hplace).trans hnext
  · obtain ⟨events, hevents, hopen⟩ := h.opens
    obtain ⟨events', hevents', hopen'⟩ := h'.opens
    refine ⟨events ++ events', by rw [hevents', hevents, List.append_assoc], ?_⟩
    intro path readOnly hmem
    rcases List.mem_append.mp hmem with hmem | hmem
    · exact hopen path readOnly hmem
    · obtain ⟨q, hq, hlead⟩ := hopen' path readOnly hmem
      exact ⟨q, hq, hlead.of_sameLinks h.grows.sameLinks.symm⟩

/-- Confined changes of the files alone. -/
theorem of_files {files : FileSystem Content} (hgrows : GrowsTo w.files files)
    (hkept : ∀ place, ¬ P place →
      Kept w.logFile place (w.files.entryAt place) (files.entryAt place)) :
    ConfinedChange P w { w with files } :=
  ⟨hgrows, hkept, rfl, OpensWithin.refl P _ _⟩

end ConfinedChange

/-! ## Blindness -/

def mapContents (g : Location → Content → Content) (w : Workspace) : Workspace :=
  { w with files := w.files.mapContents g }

/-- The contents at the places and those of the log stay as they are. -/
def Shows (P : Location → Prop) (logFile : Option LogFile) (g : Location → Content → Content) :
    Prop :=
  ∀ place content, (P place ∨ ∃ f, logFile = some f ∧ f.place = place) → g place content = content

/-- A run of the action is confined to the places: so is its change of the workspace, and it takes
the same course whatever the files elsewhere hold. -/
structure ConfinedRun (P : Location → Prop) (x : Action α) (w : Workspace) : Prop where
  change : ConfinedChange P w (result x w).2
  blind : ∀ g, Shows P w.logFile g →
    result x (w.mapContents g) = ((result x w).1, (result x w).2.mapContents g)

/-- The action is confined to the places wherever the path leads to them. -/
def Confines (P : Location → Prop) (p : Path) (x : Action α) : Prop :=
  ∀ w, LeadsWithin P w.files p → ConfinedRun P x w

/-- An action that only looks at things which do not depend on contents elsewhere. -/
theorem ConfinedRun.of_reads {x : Action α} (outcome : FileSystem Content → Except Error α)
    (hx : ∀ w, result x w = (outcome w.files, w))
    (hblind : ∀ g, Shows P w.logFile g → outcome (w.files.mapContents g) = outcome w.files) :
    ConfinedRun P x w := by
  constructor
  · rw [hx]
    exact ConfinedChange.refl P w
  · intro g hg
    rw [hx, hx]
    exact Prod.ext (hblind g hg) rfl

theorem ConfinedRun.pure (a : α) (w : Workspace) : ConfinedRun P (Pure.pure a : Action α) w :=
  ⟨ConfinedChange.refl P w, fun _ _ => rfl⟩

theorem ConfinedRun.throw (e : Error) (w : Workspace) :
    ConfinedRun P (MonadExcept.throw e : Action α) w :=
  ⟨ConfinedChange.refl P w, fun _ _ => rfl⟩

theorem ConfinedRun.ofExcept {ε : Type} (wrap : ε → Error) (x : Except ε α) (w : Workspace) :
    ConfinedRun P (Workspace.ofExcept wrap x) w := by
  cases x with
  | ok a => exact ConfinedRun.pure a w
  | error e => exact ConfinedRun.throw (wrap e) w

theorem ConfinedRun.map (f : α → β) {x : Action α} (hx : ConfinedRun P x w) :
    ConfinedRun P (f <$> x) w := by
  obtain ⟨hchange, hblind⟩ := hx
  constructor
  · rw [result_map]
    exact hchange
  · intro g hg
    rw [result_map, result_map, hblind g hg]

theorem ConfinedRun.bind {x : Action α} {f : α → Action β} (hx : ConfinedRun P x w)
    (hf : ∀ a next, result x w = (.ok a, next) → ConfinedRun P (f a) next) :
    ConfinedRun P (x >>= f) w := by
  obtain ⟨hchange, hblind⟩ := hx
  cases hresult : result x w with
  | mk outcome next =>
    rw [hresult] at hchange hblind
    cases outcome with
    | error e =>
      constructor
      · rw [result_bind, hresult]
        exact hchange
      · intro g hg
        rw [result_bind, result_bind, hblind g hg, hresult]
    | ok a =>
      have hnext := hf a next hresult
      constructor
      · rw [result_bind, hresult]
        exact hchange.trans hnext.change
      · intro g hg
        rw [result_bind, result_bind, hblind g hg, hresult]
        exact hnext.blind g (by rw [hchange.logFile_eq]; exact hg)

theorem ConfinedRun.tryCatch {x : Action α} {handle : Error → Action α} (hx : ConfinedRun P x w)
    (hhandle : ∀ e next, result x w = (.error e, next) → ConfinedRun P (handle e) next) :
    ConfinedRun P (MonadExcept.tryCatch x handle) w := by
  obtain ⟨hchange, hblind⟩ := hx
  cases hresult : result x w with
  | mk outcome next =>
    rw [hresult] at hchange hblind
    cases outcome with
    | ok a =>
      constructor
      · rw [result_tryCatch, hresult]
        exact hchange
      · intro g hg
        rw [result_tryCatch, result_tryCatch, hblind g hg, hresult]
    | error e =>
      have hnext := hhandle e next hresult
      constructor
      · rw [result_tryCatch, hresult]
        exact hchange.trans hnext.change
      · intro g hg
        rw [result_tryCatch, result_tryCatch, hblind g hg, hresult]
        exact hnext.blind g (by rw [hchange.logFile_eq]; exact hg)

namespace Confines

theorem pure (a : α) : Confines P p (Pure.pure a : Action α) :=
  fun w _ => ConfinedRun.pure a w

theorem throw (e : Error) : Confines P p (MonadExcept.throw e : Action α) :=
  fun w _ => ConfinedRun.throw e w

theorem ofExcept {ε : Type} (wrap : ε → Error) (x : Except ε α) :
    Confines P p (Workspace.ofExcept wrap x) :=
  fun w _ => ConfinedRun.ofExcept wrap x w

theorem bind {x : Action α} {f : α → Action β} (hx : Confines P p x)
    (hf : ∀ a, Confines P p (f a)) : Confines P p (x >>= f) := by
  intro w hw
  refine (hx w hw).bind fun a next hnext => hf a next ?_
  have hchange := (hx w hw).change
  rw [hnext] at hchange
  exact hw.of_sameLinks hchange.grows.sameLinks

theorem tryCatch {x : Action α} {handle : Error → Action α} (hx : Confines P p x)
    (hhandle : ∀ e, Confines P p (handle e)) : Confines P p (MonadExcept.tryCatch x handle) := by
  intro w hw
  refine (hx w hw).tryCatch fun e next hnext => hhandle e next ?_
  have hchange := (hx w hw).change
  rw [hnext] at hchange
  exact hw.of_sameLinks hchange.grows.sameLinks

theorem map (f : α → β) {x : Action α} (hx : Confines P p x) : Confines P p (f <$> x) :=
  fun w hw => (hx w hw).map f

theorem ite {c : Prop} [Decidable c] {x y : Action α} (hx : Confines P p x)
    (hy : Confines P p y) : Confines P p (if c then x else y) := by
  split
  · exact hx
  · exact hy

/-- A refusal before an action. -/
theorem refuse {c : Prop} [Decidable c] (e : Error) {f : PUnit → Action α}
    (hf : Confines P p (f ⟨⟩)) :
    Confines P p (if c then MonadExcept.throw e >>= f else f ⟨⟩) :=
  ite (bind (throw e) fun _ => hf) hf

end Confines

end WorkbookTools.Workspace
