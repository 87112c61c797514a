import WorkbookTools.Excel.Availability
import WorkbookTools.Proofs.Excel.Requests

/-!
# The life of an instance

An instance that has started works, and in the end it is asked to quit; it is killed if it does not.
A row of requests in which all instances end this way is in order. The other rows that matter here
leave one instance behind, because one of its options could not be set.

* `AllQuit.countP_eq`: as many instances quit as have started.
* `not_allQuit_of_leavesOne`: a row that leaves an instance behind is not in order.
* `availability_allQuit`: the instance that is started to look for Excel ends.
-/

namespace WorkbookTools

open WorkbookTools.Action

variable {α β : Type}

/-- A request that neither starts nor ends an instance. -/
def ExcelEvent.IsWork (e : ExcelEvent) : Prop := e ≠ .start ∧ e ≠ .quit ∧ e ≠ .kill

/-- A request about the workbook that is open. -/
def ExcelEvent.IsBookWork (e : ExcelEvent) : Prop :=
  e.IsWork ∧ ∀ option on, e ≠ .setOption option on

namespace Excel

/-! ## Rows of requests with their failures -/

/-- The requests to an instance after its start, if it is asked to quit in the end, once, and killed
only if that fails. -/
inductive Ends : List Reply → Prop where
  | quit : Ends [(.quit, none)]
  | kill (f : Fault) (last : Option Fault) : Ends [(.quit, some f), (.kill, last)]
  | work {reply : Reply} {row : List Reply} (hwork : reply.1.IsWork) (h : Ends row) :
      Ends (reply :: row)

/-- One instance is started after the other, and each one that has started ends. -/
inductive AllQuit : List Reply → Prop where
  | nil : AllQuit []
  | failedStart (f : Fault) {row : List Reply} (h : AllQuit row) : AllQuit ((.start, some f) :: row)
  | started {life row : List Reply} (hlife : Ends life) (h : AllQuit row) :
      AllQuit ((.start, none) :: (life ++ row))

/-- No option was refused. -/
def OptionsSet (row : List Reply) : Prop :=
  ∀ option on f, (ExcelEvent.setOption option on, some f) ∉ row

/-- The last instance that has started refuses an option and is then left to itself. -/
def LeavesOne (row : List Reply) : Prop :=
  ∃ before life, row = before ++ (.start, none) :: life ∧ AllQuit before ∧
    (∀ reply ∈ life, reply.1.IsWork) ∧ ¬ OptionsSet life

variable {row more : List Reply}

theorem OptionsSet.nil : OptionsSet [] := fun _ _ _ hmem => List.not_mem_nil hmem

theorem OptionsSet.cons {reply : Reply}
    (hreply : ∀ option on f, reply ≠ (.setOption option on, some f)) (h : OptionsSet row) :
    OptionsSet (reply :: row) := by
  intro option on f hmem
  rcases List.mem_cons.mp hmem with hsame | hmem
  · exact hreply option on f hsame.symm
  · exact h option on f hmem

/-- A request that does not fail refuses no option. -/
theorem OptionsSet.cons_none {e : ExcelEvent} (h : OptionsSet row) :
    OptionsSet ((e, none) :: row) :=
  h.cons fun _ _ f hsame => Option.some_ne_none f (congrArg Prod.snd hsame).symm

theorem OptionsSet.append (h : OptionsSet row) (h' : OptionsSet more) :
    OptionsSet (row ++ more) := by
  intro option on f hmem
  rcases List.mem_append.mp hmem with hmem | hmem
  · exact h option on f hmem
  · exact h' option on f hmem

theorem AllQuit.append (h : AllQuit row) (h' : AllQuit more) : AllQuit (row ++ more) := by
  induction h with
  | nil => exact h'
  | failedStart f _ ih => exact .failedStart f ih
  | started hlife _ ih =>
    rw [List.cons_append, List.append_assoc]
    exact .started hlife ih

theorem AllQuit.leavesOne_append (h : AllQuit row) (h' : LeavesOne more) :
    LeavesOne (row ++ more) := by
  obtain ⟨before, life, rfl, hbefore, hlife, hoption⟩ := h'
  exact ⟨row ++ before, life, by rw [List.append_assoc], h.append hbefore, hlife, hoption⟩

theorem LeavesOne.not_optionsSet (h : LeavesOne row) : ¬ OptionsSet row := by
  obtain ⟨before, life, rfl, -, -, hoption⟩ := h
  refine fun hset => hoption fun option on f hmem => hset option on f ?_
  exact List.mem_append_right _ (List.mem_cons_of_mem _ hmem)

/-! ## Counting instances -/

/-- An instance has started. -/
def isStarted (reply : Reply) : Bool := reply = (.start, none)

/-- An instance is asked to quit. -/
def isQuitting (reply : Reply) : Bool := reply.1 = .quit

theorem countP_start (row : List Reply) :
    ((.start, none) :: row).countP isStarted = row.countP isStarted + 1 ∧
      ((.start, none) :: row).countP isQuitting = row.countP isQuitting :=
  ⟨List.countP_cons_of_pos rfl, List.countP_cons_of_neg (by decide)⟩

theorem not_isStarted_of_isWork {reply : Reply} (h : reply.1.IsWork) :
    isStarted reply = false ∧ isQuitting reply = false := by
  constructor
  · exact decide_eq_false fun heq => h.1 (congrArg Prod.fst heq)
  · exact decide_eq_false h.2.1

theorem countP_of_isWork (h : ∀ reply ∈ row, reply.1.IsWork) :
    row.countP isStarted = 0 ∧ row.countP isQuitting = 0 := by
  simp only [List.countP_eq_zero, Bool.not_eq_true]
  exact ⟨fun reply hmem => (not_isStarted_of_isWork (h reply hmem)).1,
    fun reply hmem => (not_isStarted_of_isWork (h reply hmem)).2⟩

theorem Ends.countP_eq (h : Ends row) :
    row.countP isStarted = 0 ∧ row.countP isQuitting = 1 := by
  induction h with
  | quit => exact ⟨rfl, rfl⟩
  | kill f last => exact ⟨rfl, rfl⟩
  | work hwork _ ih =>
    obtain ⟨hstarted, hquitting⟩ := not_isStarted_of_isWork hwork
    simpa [hstarted, hquitting] using ih

/-- As many instances are asked to quit as have started. -/
theorem AllQuit.countP_eq (h : AllQuit row) : row.countP isStarted = row.countP isQuitting := by
  induction h with
  | nil => rfl
  | failedStart f _ ih => exact ih
  | started hlife _ ih =>
    obtain ⟨hstarted, hquitting⟩ := hlife.countP_eq
    rw [(countP_start _).1, (countP_start _).2, List.countP_append, List.countP_append, hstarted,
      hquitting, ih]
    omega

/-- A row that leaves an instance behind is not in order: there is one start too many. -/
theorem not_allQuit_of_leavesOne (h : LeavesOne row) : ¬ AllQuit row := by
  obtain ⟨before, life, rfl, hbefore, hlife, -⟩ := h
  intro hall
  have hcount := hall.countP_eq
  obtain ⟨hstarted, hquitting⟩ := countP_of_isWork hlife
  rw [List.countP_append, List.countP_append, (countP_start _).1, (countP_start _).2, hstarted,
    hquitting, hbefore.countP_eq] at hcount
  omega

/-! ## The end of an instance and the test for one -/

/-- Quitting ends an instance. -/
theorem ends_quitting (x : Excel) :
    Ends (x.replies x.quitting) ∧ OptionsSet (x.replies x.quitting) := by
  unfold quitting
  cases hquit : x.fault? .quit with
  | none =>
    simp only [Option.isSome_none, Bool.false_eq_true, if_false, replies, hquit]
    exact ⟨.quit, by simp [OptionsSet]⟩
  | some f =>
    simp only [Option.isSome_some, if_true, replies, hquit]
    exact ⟨.kill f _, by simp [OptionsSet]⟩

/-- After some work on its workbook an instance quits. -/
theorem ends_of_bookWork {x : Excel} {events : List ExcelEvent} (h : ∀ e ∈ events, e.IsBookWork) :
    Ends (x.replies (events ++ (x.afterAll events).quitting)) ∧
      OptionsSet (x.replies (events ++ (x.afterAll events).quitting)) := by
  induction events generalizing x with
  | nil => exact ends_quitting x
  | cons e rest ih =>
    obtain ⟨⟨hwork, hoption⟩, hrest⟩ := List.forall_mem_cons.mp h
    obtain ⟨hends, hset⟩ := ih hrest (x := x.after e)
    exact ⟨.work hwork hends, hset.cons fun option on f hsame =>
      hoption option on (congrArg Prod.fst hsame)⟩

/-- The row of an instance that ends. -/
theorem Ends.allQuit (h : Ends row) : AllQuit ((.start, none) :: row) := by
  simpa using AllQuit.started h .nil

theorem result_probe (x : Excel) :
    result probe x =
      match x.fault? .start with
      | some f =>
        (.ok ⟨false, some ("Excel application is unavailable: " ++ f.message)⟩, x.after .start)
      | none => (.ok ⟨true, none⟩, (x.after .start).afterAll (x.after .start).quitting) := by
  have hstart : result (tryCatch (start >>= fun _ => pure none) fun f => pure (some f)) x =
      (.ok (x.fault? .start), x.after .start) := by
    rw [result_tryCatch, start, result_bind, result_request]
    cases x.fault? .start <;> rfl
  unfold probe
  rw [result_bind, hstart]
  cases x.fault? .start with
  | some f => rfl
  | none =>
    simp only
    rw [result_bind, result_quit]
    rfl

/-- The instance that is started to find out whether Excel is available ends. -/
theorem availability_allQuit (x : Excel) :
    ∃ events, (result availability x).2 = x.afterAll events ∧
      AllQuit (x.replies events) ∧ OptionsSet (x.replies events) := by
  have hnothing : AllQuit (x.replies []) ∧ OptionsSet (x.replies []) := ⟨.nil, .nil⟩
  have hprobe : ∃ events, (result probe x).2 = x.afterAll events ∧
      AllQuit (x.replies events) ∧ OptionsSet (x.replies events) := by
    rw [result_probe]
    cases hstart : x.fault? .start with
    | some f =>
      refine ⟨[.start], rfl, ?_⟩
      simp only [replies, hstart]
      exact ⟨.failedStart f .nil, by simp [OptionsSet]⟩
    | none =>
      refine ⟨.start :: (x.after .start).quitting, rfl, ?_⟩
      obtain ⟨hends, hset⟩ := ends_quitting (x.after .start)
      rw [replies, hstart]
      exact ⟨hends.allQuit, hset.cons_none⟩
  unfold availability
  rw [result_get_bind]
  simp only [result_ite]
  split
  · exact ⟨[], rfl, hnothing⟩
  · split
    · exact ⟨[], rfl, hnothing⟩
    · cases x.setup.libraryFault with
      | none => exact hprobe
      | some f =>
        simp only [result_ite]
        split <;> exact ⟨[], rfl, hnothing⟩

/-- Asking whether Excel is available leaves its setup as it is. -/
theorem setup_availability (x : Excel) : (result availability x).2.setup = x.setup := by
  obtain ⟨events, hevents, -⟩ := availability_allQuit x
  rw [hevents, setup_afterAll]

end Excel

end WorkbookTools
