import Mathlib.Data.List.Perm.Subperm
import WorkbookTools.Proofs.FileSystem.Resolution

/-!
# Following links to the end

`FollowsTo` says where the components of a path lead, link by link, and how many links are met on
the way, those inside the targets included. It knows of no bound and of no links in progress. Where
the target of every link can be followed to the end, there are no loops, and resolution agrees with
it.

* `FollowsTo.unique`: there is one end, after one number of links.
* `FollowsTo.resolveWithin_eq`: resolution finds the end. The target of a link that is in progress
  takes more links than what is left to do, so no link is met twice, and the number of links bounds
  the depth.
* `LinksEnd.exists_followsTo`: without loops every path leads somewhere.
-/

namespace WorkbookTools.FileSystem

variable {α : Type} {fs : FileSystem α}

/-- From a place the components of a path lead to another one, and this many links are met. What
does not exist is no link. -/
inductive FollowsTo (fs : FileSystem α) : Nat → Location → List String → Location → Prop where
  | nil (place : Location) : FollowsTo fs 0 place [] place
  | stay {n : Nat} {place q : Location} {run : String} {rest : List String}
      (hrun : run = "" ∨ run = ".") (h : FollowsTo fs n place rest q) :
      FollowsTo fs n place (run :: rest) q
  | up {n : Nat} {place q : Location} {rest : List String}
      (h : FollowsTo fs n place.dropLast rest q) : FollowsTo fs n place (".." :: rest) q
  | enter {n : Nat} {place q : Location} {run : String} {rest : List String} (hrun : IsName run)
      (hlink : fs.linkAt (place ++ [run]) = none) (h : FollowsTo fs n (place ++ [run]) rest q) :
      FollowsTo fs n place (run :: rest) q
  | link {m n : Nat} {place there q : Location} {run target : String} {rest : List String}
      (hrun : IsName run) (hlink : fs.linkAt (place ++ [run]) = some target)
      (htarget : FollowsTo fs m (linkStart place target) (Path.runsOf target) there)
      (h : FollowsTo fs n there rest q) : FollowsTo fs (m + n + 1) place (run :: rest) q

namespace FollowsTo

variable {m n : Nat} {place there q q' : Location} {run : String} {runs more rest : List String}

theorem unique (h : FollowsTo fs m place runs q) (h' : FollowsTo fs n place runs q') :
    m = n ∧ q = q' := by
  induction h generalizing n q' with
  | nil place =>
    cases h'
    exact ⟨rfl, rfl⟩
  | stay hrun _ ih =>
    cases h' with
    | stay _ h' => exact ih h'
    | up _ => simp at hrun
    | enter hname _ _ => exact absurd hrun (not_or.mpr ⟨hname.1, hname.2.1⟩)
    | link hname _ _ _ => exact absurd hrun (not_or.mpr ⟨hname.1, hname.2.1⟩)
  | up _ ih =>
    cases h' with
    | stay hrun _ => simp at hrun
    | up h' => exact ih h'
    | enter hname _ _ => exact absurd rfl hname.2.2.1
    | link hname _ _ _ => exact absurd rfl hname.2.2.1
  | enter hname hlink _ ih =>
    cases h' with
    | stay hrun _ => exact absurd hrun (not_or.mpr ⟨hname.1, hname.2.1⟩)
    | up _ => exact absurd rfl hname.2.2.1
    | enter _ _ h' => exact ih h'
    | link _ hother _ _ => rw [hlink] at hother; cases hother
  | link hname hlink _ _ ihtarget ih =>
    cases h' with
    | stay hrun _ => exact absurd hrun (not_or.mpr ⟨hname.1, hname.2.1⟩)
    | up _ => exact absurd rfl hname.2.2.1
    | enter _ hother _ => rw [hlink] at hother; cases hother
    | link _ hother htarget h' =>
      obtain rfl := Option.some.inj (hlink.symm.trans hother)
      obtain ⟨rfl, rfl⟩ := ihtarget htarget
      obtain ⟨rfl, rfl⟩ := ih h'
      exact ⟨rfl, rfl⟩

theorem append (h : FollowsTo fs m place runs there) (h' : FollowsTo fs n there more q) :
    FollowsTo fs (m + n) place (runs ++ more) q := by
  induction h with
  | nil place => simpa using h'
  | stay hrun _ ih => exact .stay hrun (ih h')
  | up _ ih => exact .up (ih h')
  | enter hname hlink _ ih => exact .enter hname hlink (ih h')
  | @link k l _ _ _ _ _ _ hname hlink htarget _ _ ih =>
    have hcount : k + l + 1 + n = k + (l + n) + 1 := by omega
    rw [List.cons_append, hcount]
    exact .link hname hlink htarget (ih h')

end FollowsTo

/-! ## Ends of paths -/

/-- An end leads to itself, straight on. -/
theorem IsEnd.followsTo {place : Location} (h : IsEnd fs place) : FollowsTo fs 0 [] place place := by
  have hfrom : ∀ names place : Location, IsEnd fs (place ++ names) →
      FollowsTo fs 0 place names (place ++ names) := by
    intro names
    induction names with
    | nil =>
      intro place _
      rw [List.append_nil]
      exact .nil place
    | cons name rest ih =>
      intro place hend
      have happend : place ++ name :: rest = (place ++ [name]) ++ rest := by simp
      obtain ⟨hempty, hdot, hdots⟩ := hend.settled.plain name (by simp)
      have hname : IsName name := ⟨hempty, hdot, hdots, hend.noNul name (by simp)⟩
      rw [happend] at hend ⊢
      exact .enter hname (hend.settled.noLink _ (List.prefix_append _ _)) (ih _ hend)
  exact hfrom place [] h

/-- Where a path leads from an end is an end. -/
theorem FollowsTo.isEnd {n : Nat} {place q : Location} {runs : List String}
    (h : FollowsTo fs n place runs q) (hplace : IsEnd fs place) : IsEnd fs q := by
  induction h with
  | nil place => exact hplace
  | stay _ _ ih => exact ih hplace
  | up _ ih => exact ih hplace.dropLast
  | enter hname hlink _ ih => exact ih (hplace.snoc hname hlink)
  | link _ _ _ _ ihtarget ih => exact ih (ihtarget (hplace.linkStart _))

/-! ## File systems without loops -/

/-- The target of every link can be followed to an end. -/
def LinksEnd (fs : FileSystem α) : Prop :=
  ∀ place run target, fs.linkAt (place ++ [run]) = some target →
    ∃ n there, FollowsTo fs n (linkStart place target) (Path.runsOf target) there

/-- Without loops every path leads somewhere. -/
theorem LinksEnd.exists_followsTo (hend : LinksEnd fs) {runs : List String}
    (hnul : ∀ run ∈ runs, '\x00' ∉ run.toList) (place : Location) :
    ∃ n q, FollowsTo fs n place runs q := by
  induction runs generalizing place with
  | nil => exact ⟨0, place, .nil place⟩
  | cons run rest ih =>
    obtain ⟨hrun, hrest⟩ := List.forall_mem_cons.mp hnul
    by_cases hdot : run = "" ∨ run = "."
    · obtain ⟨n, q, h⟩ := ih hrest place
      exact ⟨n, q, .stay hdot h⟩
    by_cases hdots : run = ".."
    · obtain ⟨n, q, h⟩ := ih hrest place.dropLast
      rw [hdots]
      exact ⟨n, q, .up h⟩
    have hname : IsName run := ⟨(not_or.mp hdot).1, (not_or.mp hdot).2, hdots, hrun⟩
    cases hlink : fs.linkAt (place ++ [run]) with
    | none =>
      obtain ⟨n, q, h⟩ := ih hrest (place ++ [run])
      exact ⟨n, q, .enter hname hlink h⟩
    | some target =>
      obtain ⟨m, there, htarget⟩ := hend place run target hlink
      obtain ⟨n, q, h⟩ := ih hrest there
      exact ⟨m + n + 1, q, .link hname hlink htarget h⟩

/-! ## Resolution follows links -/

/-- How resolution follows a link at a depth. -/
def followWithin (fs : FileSystem α) :
    Nat → List Location → Location → List String → Except ResolveError Resolution
  | 0 => fun _ place runs => .ok (.stuck (continueText (Path.absolute place).text runs))
  | depth + 1 => fs.resolveWithin depth

theorem resolveWithin_eq (depth : Nat) :
    fs.resolveWithin depth = fs.resolveFrom (fs.followWithin depth) := by
  cases depth <;> rfl

theorem mem_of_find_link {place : Location} {entries : List (Location × Entry α)}
    (h : (find place entries).bind linkOf? ≠ none) :
    place ∈ (entries.filter fun (_, e) => (linkOf? e).isSome).map (·.1) := by
  induction entries with
  | nil => exact absurd rfl h
  | cons first rest ih =>
    obtain ⟨other, e⟩ := first
    unfold find at h
    by_cases hsame : other = place
    · rw [if_pos hsame, Option.bind_some] at h
      have hlink : (linkOf? e).isSome := Option.isSome_iff_ne_none.mpr h
      simp [hlink, hsame]
    · rw [if_neg hsame] at h
      have hmem := ih h
      cases hlink : (linkOf? e).isSome <;> simp [hlink, hmem]

/-- As many different places can hold links as there are links. -/
theorem length_le_linkCount {links : List Location} (hnodup : links.Nodup)
    (hlinks : ∀ place ∈ links, fs.linkAt place ≠ none) : links.length ≤ fs.linkCount := by
  obtain ⟨entries⟩ := fs
  have hsubset : links ⊆ (entries.filter fun (_, e) => (linkOf? e).isSome).map (·.1) := by
    intro place hplace
    have hlink := hlinks place hplace
    rw [linkAt_eq_bind, entryAt] at hlink
    split at hlink
    · exact absurd rfl hlink
    · exact mem_of_find_link hlink
  have hlength := (hnodup.subperm hsubset).length_le
  rwa [List.length_map, ← List.countP_eq_length_filter, ← linkCount_eq_countP] at hlength

/-- One step of resolution at a depth. -/
theorem resolveWithin_cons (depth : Nat) (active : List Location) (place : Location) (run : String)
    (rest : List String) :
    fs.resolveWithin depth active place (run :: rest) =
      if run = "" ∨ run = "." then fs.resolveWithin depth active place rest
      else if run = ".." then fs.resolveWithin depth active place.dropLast rest
      else if '\x00' ∈ run.toList then .error .embeddedNul
      else
        match fs.linkAt (place ++ [run]) with
        | some target =>
          if place ++ [run] ∈ active then
            .ok (.stuck (continueText (Path.absolute (place ++ [run])).text rest))
          else
            match fs.followWithin depth ((place ++ [run]) :: active) (linkStart place target)
                (Path.runsOf target) with
            | .ok (.reached there) => fs.resolveWithin depth active there rest
            | .ok (.stuck text) => .ok (.stuck (continueText text rest))
            | .error e => .error e
        | none => fs.resolveWithin depth active (place ++ [run]) rest := by
  simp only [resolveWithin_eq]
  exact resolveFrom_cons _ active place run rest

theorem resolveWithin_name {depth : Nat} {active : List Location} {place : Location} {run : String}
    (rest : List String) (hrun : IsName run) (hlink : fs.linkAt (place ++ [run]) = none) :
    fs.resolveWithin depth active place (run :: rest) =
      fs.resolveWithin depth active (place ++ [run]) rest := by
  rw [resolveWithin_cons, if_neg (not_or.mpr ⟨hrun.1, hrun.2.1⟩), if_neg hrun.2.2.1,
    if_neg hrun.2.2.2, hlink]

theorem resolveWithin_link {depth : Nat} {active : List Location} {place there : Location}
    {run target : String} (rest : List String) (hrun : IsName run)
    (hlink : fs.linkAt (place ++ [run]) = some target) (hnew : place ++ [run] ∉ active)
    (hfollow : fs.followWithin depth ((place ++ [run]) :: active) (linkStart place target)
      (Path.runsOf target) = .ok (.reached there)) :
    fs.resolveWithin depth active place (run :: rest) =
      fs.resolveWithin depth active there rest := by
  rw [resolveWithin_cons, if_neg (not_or.mpr ⟨hrun.1, hrun.2.1⟩), if_neg hrun.2.2.1,
    if_neg hrun.2.2.2]
  simp only [hlink, if_neg hnew, hfollow]

/-- A link whose target meets this many links. -/
def LinkTakes (fs : FileSystem α) (m : Nat) (place : Location) : Prop :=
  ∃ directory run target there, place = directory ++ [run] ∧ fs.linkAt place = some target ∧
    FollowsTo fs m (linkStart directory target) (Path.runsOf target) there

theorem LinkTakes.unique {m n : Nat} {place : Location} (h : LinkTakes fs m place)
    (h' : LinkTakes fs n place) : m = n := by
  obtain ⟨directory, run, target, there, rfl, hlink, htarget⟩ := h
  obtain ⟨other, name, found, q, hplace, hfound, hq⟩ := h'
  obtain ⟨rfl, -⟩ := List.append_inj' hplace rfl
  obtain rfl := Option.some.inj (hlink.symm.trans hfound)
  exact (htarget.unique hq).1

/-- The links in progress at a depth: different ones, together with the depth as many as there are,
and each with a target that takes at least as many links as what is being followed. -/
structure InProgress (fs : FileSystem α) (depth n : Nat) (active : List Location) : Prop where
  nodup : active.Nodup
  length_eq : active.length + depth = fs.linkCount
  takes : ∀ place ∈ active, ∃ m, n ≤ m ∧ LinkTakes fs m place

theorem InProgress.mono {depth m n : Nat} {active : List Location}
    (h : InProgress fs depth n active) (hle : m ≤ n) : InProgress fs depth m active := by
  refine ⟨h.nodup, h.length_eq, fun place hplace => ?_⟩
  obtain ⟨k, hk, htakes⟩ := h.takes place hplace
  exact ⟨k, Nat.le_trans hle hk, htakes⟩

/-- A link that takes fewer links than what is being followed is not in progress, and its target can
be followed one level deeper. -/
theorem InProgress.enter {depth m n : Nat} {active : List Location} {place : Location}
    (h : InProgress fs depth n active) (hlt : m < n) (htakes : LinkTakes fs m place) :
    place ∉ active ∧ ∃ below, depth = below + 1 ∧ InProgress fs below m (place :: active) := by
  have hnew : place ∉ active := by
    intro hmem
    obtain ⟨k, hk, hother⟩ := h.takes place hmem
    obtain rfl := htakes.unique hother
    omega
  have hnodup : (place :: active).Nodup := List.nodup_cons.mpr ⟨hnew, h.nodup⟩
  have htakesAll : ∀ other ∈ place :: active, ∃ k, m ≤ k ∧ LinkTakes fs k other := by
    intro other hother
    rcases List.mem_cons.mp hother with rfl | hother
    · exact ⟨m, Nat.le_refl m, htakes⟩
    · exact (h.mono (Nat.le_of_lt hlt)).takes other hother
  have hlength : (place :: active).length ≤ fs.linkCount := by
    refine length_le_linkCount hnodup fun other hother => ?_
    obtain ⟨k, -, directory, run, target, there, -, hlink, -⟩ := htakesAll other hother
    rw [hlink]
    exact nofun
  have hcount := h.length_eq
  rw [List.length_cons] at hlength
  refine ⟨hnew, depth - 1, by omega, hnodup, ?_, htakesAll⟩
  rw [List.length_cons]
  omega

/-- Resolution finds where a path leads. -/
theorem FollowsTo.resolveWithin_eq {n depth : Nat} {place q : Location} {runs : List String}
    {active : List Location} (h : FollowsTo fs n place runs q)
    (hactive : InProgress fs depth n active) :
    fs.resolveWithin depth active place runs = .ok (.reached q) := by
  induction h generalizing depth active with
  | nil place =>
    rw [FileSystem.resolveWithin_eq]
    rfl
  | stay hrun _ ih =>
    rw [resolveWithin_cons, if_pos hrun]
    exact ih hactive
  | up _ ih =>
    rw [resolveWithin_cons, if_neg (by decide), if_pos rfl]
    exact ih hactive
  | enter hname hlink _ ih =>
    rw [resolveWithin_name _ hname hlink]
    exact ih hactive
  | @link k l place there _ run target rest hname hlink htarget _ ihtarget ih =>
    have htakes : LinkTakes fs k (place ++ [run]) :=
      ⟨place, run, target, there, rfl, hlink, htarget⟩
    obtain ⟨hnew, below, rfl, hbelow⟩ := hactive.enter (by omega) htakes
    have hfollow : fs.followWithin (below + 1) ((place ++ [run]) :: active) (linkStart place target)
        (Path.runsOf target) = .ok (.reached there) := ihtarget hbelow
    rw [resolveWithin_link rest hname hlink hnew hfollow]
    exact ih (hactive.mono (by omega))

theorem inProgress_nil (fs : FileSystem α) (n : Nat) : InProgress fs fs.linkCount n [] :=
  ⟨List.nodup_nil, by simp, by simp⟩

/-- Where a path leads is where resolution ends. -/
theorem FollowsTo.resolve_eq {n : Nat} {p : Path} {q : Location} (h : FollowsTo fs n [] p.parts q) :
    fs.resolve p = .ok (Path.absolute q) :=
  Reaches.resolve_eq (h.resolveWithin_eq (inProgress_nil fs n))

/-- Without loops, resolution gets past every component without the character NUL. -/
theorem LinksEnd.exists_next (hend : LinksEnd fs) (place : Location) {run : String}
    (hnul : '\x00' ∉ run.toList) (rest : List String) :
    ∃ next, fs.resolveWithin fs.linkCount [] place (run :: rest) =
      fs.resolveWithin fs.linkCount [] next rest := by
  by_cases hdot : run = "" ∨ run = "."
  · exact ⟨place, by rw [resolveWithin_cons, if_pos hdot]⟩
  by_cases hdots : run = ".."
  · exact ⟨place.dropLast, by rw [resolveWithin_cons, if_neg hdot, if_pos hdots]⟩
  have hname : IsName run := ⟨(not_or.mp hdot).1, (not_or.mp hdot).2, hdots, hnul⟩
  cases hlink : fs.linkAt (place ++ [run]) with
  | none => exact ⟨place ++ [run], resolveWithin_name rest hname hlink⟩
  | some target =>
    obtain ⟨m, there, htarget⟩ := hend place run target hlink
    have htakes : LinkTakes fs m (place ++ [run]) :=
      ⟨place, run, target, there, rfl, hlink, htarget⟩
    obtain ⟨hnew, below, hdepth, hbelow⟩ :=
      (inProgress_nil fs (m + 1)).enter (Nat.lt_succ_self m) htakes
    have hfollow : fs.followWithin fs.linkCount [place ++ [run]] (linkStart place target)
        (Path.runsOf target) = .ok (.reached there) := by
      rw [hdepth]
      exact htarget.resolveWithin_eq hbelow
    exact ⟨there, resolveWithin_link rest hname hlink hnew hfollow⟩

/-- A path with the character NUL cannot be resolved. -/
theorem LinksEnd.resolve_error (hend : LinksEnd fs) {p : Path}
    (hnul : ∃ run ∈ p.parts, '\x00' ∈ run.toList) : fs.resolve p = .error .embeddedNul := by
  have hfrom : ∀ (runs : List String) (place : Location), (∃ run ∈ runs, '\x00' ∈ run.toList) →
      fs.resolveWithin fs.linkCount [] place runs = .error .embeddedNul := by
    intro runs
    induction runs with
    | nil => simp
    | cons run rest ih =>
      intro place hruns
      by_cases hrun : '\x00' ∈ run.toList
      · have hplain : run ≠ "" ∧ run ≠ "." ∧ run ≠ ".." := by
          refine ⟨?_, ?_, ?_⟩ <;> rintro rfl <;> simp at hrun
        rw [resolveWithin_cons, if_neg (not_or.mpr ⟨hplain.1, hplain.2.1⟩), if_neg hplain.2.2,
          if_pos hrun]
      · obtain ⟨other, hother, hfound⟩ := hruns
        have hrest : other ∈ rest := by
          rcases List.mem_cons.mp hother with rfl | hother
          · exact absurd hfound hrun
          · exact hother
        obtain ⟨next, hnext⟩ := hend.exists_next place hrun rest
        rw [hnext]
        exact ih next ⟨other, hrest, hfound⟩
  rw [resolve, hfrom p.parts [] hnul]

end WorkbookTools.FileSystem
