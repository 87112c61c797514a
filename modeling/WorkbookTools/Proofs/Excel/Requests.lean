import WorkbookTools.Editing.Engine
import WorkbookTools.Proofs.Action

/-!
# Rows of requests to Excel

Every action on Excel comes down to a row of requests. Which of them fail is known from the state
in which the row begins. A row that is ended by its first failure is `attempted` up to that request.

* `result_forM_request`: what a row of requests gives and leaves.
* `RequestsOnly`: all requests of an action have a property, closed under sequences and handlers.
-/

namespace WorkbookTools

open WorkbookTools.Action

variable {α β ε σ : Type}

namespace Excel

theorem result_request (e : ExcelEvent) (x : Excel) :
    result (request e) x =
      (match x.fault? e with
        | some f => .error f
        | none => .ok (),
        x.after e) := by
  unfold request
  rw [result_get_bind, result_set_bind]
  cases x.fault? e <;> rfl

/-! ## Rows of requests -/

/-- Excel after a row of requests. -/
def afterAll (x : Excel) (events : List ExcelEvent) : Excel := events.foldl after x

@[simp] theorem afterAll_nil (x : Excel) : x.afterAll [] = x := rfl

@[simp] theorem afterAll_cons (x : Excel) (e : ExcelEvent) (events : List ExcelEvent) :
    x.afterAll (e :: events) = (x.after e).afterAll events := rfl

@[simp] theorem afterAll_append (x : Excel) (events more : List ExcelEvent) :
    x.afterAll (events ++ more) = (x.afterAll events).afterAll more :=
  List.foldl_append

@[simp] theorem events_afterAll (x : Excel) (events : List ExcelEvent) :
    (x.afterAll events).events = x.events ++ events := by
  induction events generalizing x with
  | nil => simp
  | cons e rest ih =>
    rw [afterAll_cons, ih, after, List.append_assoc]
    rfl

@[simp] theorem setup_afterAll (x : Excel) (events : List ExcelEvent) :
    (x.afterAll events).setup = x.setup := by
  induction events generalizing x with
  | nil => rfl
  | cons e rest ih => exact ih (x.after e)

/-- A request and its failure, if it fails. -/
abbrev Reply := ExcelEvent × Option Fault

/-- The requests of a row with their failures. -/
def replies (x : Excel) : List ExcelEvent → List Reply
  | [] => []
  | e :: rest => (e, x.fault? e) :: (x.after e).replies rest

@[simp] theorem replies_append (x : Excel) (events more : List ExcelEvent) :
    x.replies (events ++ more) = x.replies events ++ (x.afterAll events).replies more := by
  induction events generalizing x with
  | nil => rfl
  | cons e rest ih => simp [replies, ih]

@[simp] theorem length_replies (x : Excel) (events : List ExcelEvent) :
    (x.replies events).length = events.length := by
  induction events generalizing x with
  | nil => rfl
  | cons e rest ih => simp [replies, ih]

/-- Where two states answer a row in the same way, they do so for each part of it. -/
theorem replies_append_inj {x y : Excel} {events more : List ExcelEvent}
    (h : x.replies (events ++ more) = y.replies (events ++ more)) :
    x.replies events = y.replies events ∧
      (x.afterAll events).replies more = (y.afterAll events).replies more :=
  List.append_inj (by simpa using h) (by simp)

/-! ## The first failure of a row -/

/-- The first failure in a row of requests. -/
def firstFault? (x : Excel) (events : List ExcelEvent) : Option Fault :=
  (x.replies events).findSome? (·.2)

/-- The requests of a row that are made if the first failure ends it. -/
def attempted (x : Excel) : List ExcelEvent → List ExcelEvent
  | [] => []
  | e :: rest =>
    e :: match x.fault? e with
      | some _ => []
      | none => (x.after e).attempted rest

theorem firstFault?_cons (x : Excel) (e : ExcelEvent) (rest : List ExcelEvent) :
    x.firstFault? (e :: rest) = (x.fault? e).or ((x.after e).firstFault? rest) := by
  rw [firstFault?, firstFault?, replies, List.findSome?_cons]
  cases x.fault? e <;> rfl

theorem firstFault?_append (x : Excel) (events more : List ExcelEvent) :
    x.firstFault? (events ++ more) =
      (x.firstFault? events).or ((x.afterAll events).firstFault? more) := by
  unfold firstFault?
  rw [replies_append, List.findSome?_append]

/-- A row without failures is made to its end. -/
theorem attempted_of_firstFault?_none {x : Excel} {events : List ExcelEvent}
    (h : x.firstFault? events = none) : x.attempted events = events := by
  induction events generalizing x with
  | nil => rfl
  | cons e rest ih =>
    rw [firstFault?_cons, Option.or_eq_none_iff] at h
    rw [attempted, h.1]
    exact congrArg (e :: ·) (ih h.2)

/-- After a failure in the first part of a row nothing of the second part is requested. -/
theorem attempted_append (x : Excel) (events more : List ExcelEvent) :
    x.attempted (events ++ more) =
      match x.firstFault? events with
      | some _ => x.attempted events
      | none => events ++ (x.afterAll events).attempted more := by
  induction events generalizing x with
  | nil => rfl
  | cons e rest ih =>
    rw [List.cons_append, attempted, attempted, firstFault?_cons]
    cases hfault : x.fault? e with
    | some f => rfl
    | none =>
      simp only [Option.none_or, ih]
      cases (x.after e).firstFault? rest <;> rfl

/-- A row of requests goes on up to the first failure. -/
theorem result_forM_request (x : Excel) (events : List ExcelEvent) :
    result (events.forM request) x =
      (match x.firstFault? events with
        | some f => .error f
        | none => .ok (),
        x.afterAll (x.attempted events)) := by
  induction events generalizing x with
  | nil => rfl
  | cons e rest ih =>
    unfold List.forM
    rw [result_bind, result_request, firstFault?_cons, attempted]
    cases x.fault? e with
    | some f => rfl
    | none => exact ih (x.after e)

/-! ## Single actions -/

theorem result_sheetNames (x : Excel) :
    result sheetNames x =
      (match x.setup.sheetsFault with
        | some f => .error f
        | none => .ok x.setup.sheets,
        x) := by
  unfold sheetNames
  rw [result_get_bind]
  cases x.setup.sheetsFault <;> rfl

/-- The sheets of the workbook can be listed, and one of them has this title. -/
def Offers (x : Excel) (title : String) : Prop :=
  x.setup.sheetsFault = none ∧ title ∈ x.setup.sheets

instance (x : Excel) (title : String) : Decidable (x.Offers title) :=
  inferInstanceAs (Decidable (_ ∧ _))

/-- The end of an instance: it is killed if it does not quit. -/
def quitting (x : Excel) : List ExcelEvent :=
  if (x.fault? .quit).isSome then [.quit, .kill] else [.quit]

/-- Closing gives no failure. -/
theorem result_closeBook (x : Excel) : result closeBook x = (.ok (), x.after .closeBook) := by
  have hclose : result closeBook x =
      result (tryCatch (request .closeBook) fun _ => pure ()) x := rfl
  rw [hclose, result_tryCatch, result_request]
  cases x.fault? .closeBook <;> rfl

/-- Quitting gives no failure. -/
theorem result_quit (x : Excel) : result quit x = (.ok (), x.afterAll x.quitting) := by
  have hquit : result quit x =
      result (tryCatch (request .quit) fun _ => tryCatch (request .kill) fun _ => pure ()) x := rfl
  rw [hquit, result_tryCatch, result_request, quitting]
  cases x.fault? .quit with
  | none => rfl
  | some f =>
    simp only [result_tryCatch, result_request]
    cases (x.after .quit).fault? .kill <;> rfl

end Excel

/-! ## Properties of all requests -/

/-- All requests of the action have the property. The actions may be those on Excel itself or on a
state that Excel is part of. -/
def RequestsOnly (view : σ → Excel) (q : ExcelEvent → Prop) (x : ExceptT ε (StateM σ) α) : Prop :=
  ∀ s, ∃ events, view (result x s).2 = (view s).afterAll events ∧ ∀ e ∈ events, q e

namespace RequestsOnly

variable {view : σ → Excel} {q : ExcelEvent → Prop}

/-- Actions that leave Excel alone. -/
theorem of_unchanged {x : ExceptT ε (StateM σ) α} (h : ∀ s, view (result x s).2 = view s) :
    RequestsOnly view q x :=
  fun s => ⟨[], h s, by simp⟩

theorem pure (a : α) : RequestsOnly view q (Pure.pure a : ExceptT ε (StateM σ) α) :=
  of_unchanged fun _ => rfl

theorem throw (e : ε) : RequestsOnly view q (MonadExcept.throw e : ExceptT ε (StateM σ) α) :=
  of_unchanged fun _ => rfl

theorem get_bind {f : σ → ExceptT ε (StateM σ) α} (hf : ∀ s, RequestsOnly view q (f s)) :
    RequestsOnly view q (get >>= f) :=
  fun s => hf s s

/-- Requests that are made after others. -/
theorem after_others {s next : σ} {events : List ExcelEvent} {x : ExceptT ε (StateM σ) α}
    (hnext : view next = (view s).afterAll events) (hevents : ∀ e ∈ events, q e)
    (hx : RequestsOnly view q x) :
    ∃ more, view (result x next).2 = (view s).afterAll more ∧ ∀ e ∈ more, q e := by
  obtain ⟨more, hmore, hq⟩ := hx next
  refine ⟨events ++ more, by rw [hmore, hnext, Excel.afterAll_append], fun e he => ?_⟩
  rcases List.mem_append.mp he with he | he
  · exact hevents e he
  · exact hq e he

theorem bind {x : ExceptT ε (StateM σ) α} {f : α → ExceptT ε (StateM σ) β}
    (hx : RequestsOnly view q x) (hf : ∀ a, RequestsOnly view q (f a)) :
    RequestsOnly view q (x >>= f) := by
  intro s
  obtain ⟨events, hnext, hevents⟩ := hx s
  rw [result_bind]
  cases hresult : result x s with
  | mk outcome next =>
    rw [hresult] at hnext
    cases outcome with
    | error e => exact ⟨events, hnext, hevents⟩
    | ok a => exact after_others hnext hevents (hf a)

theorem tryCatch {x : ExceptT ε (StateM σ) α} {handle : ε → ExceptT ε (StateM σ) α}
    (hx : RequestsOnly view q x) (hhandle : ∀ e, RequestsOnly view q (handle e)) :
    RequestsOnly view q (MonadExcept.tryCatch x handle) := by
  intro s
  obtain ⟨events, hnext, hevents⟩ := hx s
  rw [result_tryCatch]
  cases hresult : result x s with
  | mk outcome next =>
    rw [hresult] at hnext
    cases outcome with
    | ok a => exact ⟨events, hnext, hevents⟩
    | error e => exact after_others hnext hevents (hhandle e)

theorem map (f : α → β) {x : ExceptT ε (StateM σ) α} (hx : RequestsOnly view q x) :
    RequestsOnly view q (f <$> x) := by
  intro s
  rw [result_map]
  exact hx s

theorem ite {c : Prop} [Decidable c] {x y : ExceptT ε (StateM σ) α} (hx : RequestsOnly view q x)
    (hy : RequestsOnly view q y) : RequestsOnly view q (if c then x else y) := by
  split
  · exact hx
  · exact hy

theorem forM {f : α → ExceptT ε (StateM σ) PUnit} (hf : ∀ a, RequestsOnly view q (f a))
    (l : List α) : RequestsOnly view q (l.forM f) := by
  induction l with
  | nil => exact pure PUnit.unit
  | cons a rest ih => exact bind (hf a) fun _ => ih

end RequestsOnly

/-! ## The requests of each action -/

namespace Excel

variable {q : ExcelEvent → Prop}

theorem requestsOnly_request {e : ExcelEvent} (he : q e) : RequestsOnly id q (request e) := by
  intro x
  rw [result_request]
  refine ⟨[e], rfl, fun other hother => ?_⟩
  rw [List.mem_singleton.mp hother]
  exact he

theorem requestsOnly_sheetNames : RequestsOnly id q sheetNames :=
  RequestsOnly.of_unchanged fun x => by rw [result_sheetNames]

theorem requestsOnly_closeBook (hclose : q .closeBook) : RequestsOnly id q closeBook :=
  RequestsOnly.tryCatch (requestsOnly_request hclose) fun _ => RequestsOnly.pure _

theorem requestsOnly_quit (hquit : q .quit) (hkill : q .kill) : RequestsOnly id q quit :=
  RequestsOnly.tryCatch (requestsOnly_request hquit) fun _ =>
    RequestsOnly.tryCatch (requestsOnly_request hkill) fun _ => RequestsOnly.pure _

/-- Finding out whether Excel is available starts an instance and quits it, at most. -/
theorem requestsOnly_availability (hstart : q .start) (hquit : q .quit) (hkill : q .kill) :
    RequestsOnly id q availability := by
  refine RequestsOnly.get_bind fun x => RequestsOnly.ite (RequestsOnly.pure _) ?_
  refine RequestsOnly.ite (RequestsOnly.pure _) ?_
  cases x.setup.libraryFault with
  | some f => exact RequestsOnly.ite (RequestsOnly.pure _) (RequestsOnly.throw f)
  | none =>
    refine RequestsOnly.bind (RequestsOnly.tryCatch ?_ fun f => RequestsOnly.pure (some f))
      fun failure => ?_
    · exact RequestsOnly.bind (requestsOnly_request hstart) fun _ => RequestsOnly.pure none
    · cases failure with
      | some f => exact RequestsOnly.pure _
      | none => exact RequestsOnly.bind (requestsOnly_quit hquit hkill) fun _ => RequestsOnly.pure _

theorem result_updater (autoFormula : Bool) (sheet : String) (row column : Int) (u : CellUpdate)
    (x : Excel) :
    result (updater autoFormula sheet row column u) x =
      ((result (update autoFormula sheet row column u) x).1.mapError .fault,
        (result (update autoFormula sheet row column u) x).2) := by
  unfold updater result
  rw [ExceptT.run_mk, StateT.run_bind]
  show (match (update autoFormula sheet row column u).run.run x with | (outcome, next) => _) = _
  obtain ⟨outcome, next⟩ := (update autoFormula sheet row column u).run.run x
  cases outcome <;> rfl

theorem requestsOnly_updater (autoFormula : Bool) (sheet : String)
    (hset : ∀ row column property, q (.setCell sheet row column property)) (row column : Int)
    (u : CellUpdate) : RequestsOnly id q (updater autoFormula sheet row column u) := by
  intro x
  rw [result_updater]
  have hupdate : RequestsOnly id q (update autoFormula sheet row column u) :=
    RequestsOnly.forM (fun property => requestsOnly_request (hset row column property)) _
  exact hupdate x

/-- A batch only sets cells of its sheet. -/
theorem requestsOnly_applyAll (autoFormula : Bool) (sheet : String)
    (hset : ∀ row column property, q (.setCell sheet row column property))
    (edits : List CellEdit) :
    RequestsOnly id q (CellEdit.applyAll (updater autoFormula sheet) edits) := by
  induction edits with
  | nil => exact RequestsOnly.pure []
  | cons e rest ih =>
    refine RequestsOnly.bind (RequestsOnly.tryCatch ?_ fun error => RequestsOnly.throw _)
      fun first => ?_
    · refine RequestsOnly.bind (RequestsOnly.forM (fun u => ?_) e.updates) fun _ =>
        RequestsOnly.pure _
      exact requestsOnly_updater autoFormula sheet hset _ _ u.2
    · exact RequestsOnly.bind ih fun others => RequestsOnly.pure (first :: others)

end Excel

end WorkbookTools
