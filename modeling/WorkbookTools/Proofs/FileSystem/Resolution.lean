import WorkbookTools.Proofs.FileSystem.Links

/-!
# Resolved paths

A path that has been resolved by following links to the end is free of links, so it leads to itself.
That does not hold of a path on which resolution runs into a loop.

* `Settled.unique`: a place that is free of links leads to itself only.
* `Reaches.isEnd`: what is reached by resolution is free of links, and its names can be written.
* `GrowsTo.resolve_eq`: paths that resolve after entries have been added did so before.
-/

namespace WorkbookTools.FileSystem

variable {α : Type} {fs fs' : FileSystem α}

/-! ## Places without links -/

/-- A place on the way to which no link stands, with names that lead into directories. -/
structure Settled (fs : FileSystem α) (place : Location) : Prop where
  noLink : ∀ above, above <+: place → fs.linkAt above = none
  plain : ∀ name ∈ place, name ≠ "" ∧ name ≠ "." ∧ name ≠ ".."

namespace Settled

theorem root (fs : FileSystem α) : Settled fs [] := by
  constructor
  · intro above habove
    rw [List.prefix_nil.mp habove]
    rfl
  · simp

theorem dropLast {place : Location} (h : Settled fs place) : Settled fs place.dropLast :=
  ⟨fun above habove => h.noLink above (habove.trans (List.dropLast_prefix place)),
    fun name hname => h.plain name (List.dropLast_subset place hname)⟩

theorem snoc {place : Location} {name : String} (h : Settled fs place)
    (hname : name ≠ "" ∧ name ≠ "." ∧ name ≠ "..") (hlink : fs.linkAt (place ++ [name]) = none) :
    Settled fs (place ++ [name]) := by
  constructor
  · intro above habove
    rcases List.prefix_concat_iff.mp habove with rfl | habove
    · exact hlink
    · exact h.noLink above habove
  · intro other hother
    rcases List.mem_append.mp hother with hother | hother
    · exact h.plain other hother
    · rw [List.mem_singleton.mp hother]
      exact hname

theorem of_sameLinks {place : Location} (h : Settled fs place) (hlinks : SameLinks fs fs') :
    Settled fs' place :=
  ⟨fun above habove => by rw [← hlinks.linkAt_eq, h.noLink above habove], h.plain⟩

/-- A walk along a settled place goes straight on. -/
theorem walk_end {purpose : Purpose} (hpurpose : purpose ≠ .create)
    {follow : Location → List String → Located α} {place names : List String} {q : Location}
    (hsettled : Settled fs (place ++ names))
    (h : (fs.walk purpose follow place names).end? = some q) : q = place ++ names := by
  induction names generalizing place with
  | nil => rw [walk_nil_end h, List.append_nil]
  | cons name rest ih =>
    have happend : place ++ name :: rest = (place ++ [name]) ++ rest := by simp
    obtain ⟨hempty, hdot, hdots⟩ := hsettled.plain name (by simp)
    have hlink : fs.linkAt (place ++ [name]) = none := by
      apply hsettled.noLink
      rw [happend]
      exact List.prefix_append _ _
    have hnext := walk_cons_end hpurpose h
    rw [if_neg (not_or.mpr ⟨hempty, hdot⟩), if_neg hdots, hlink] at hnext
    rcases hnext with ⟨rfl, rfl⟩ | hnext
    · rfl
    · rw [happend] at hsettled ⊢
      exact ih hsettled hnext

/-- A settled place may lead to itself only. -/
theorem unique {place q : Location} (h : Settled fs place)
    (hlead : MayLeadTo fs (Path.absolute place) q) : q = place := by
  obtain ⟨other, hlinks, purpose, hpurpose, hend⟩ := hlead
  have hwalk : q = [] ++ place := walk_end hpurpose (h.of_sameLinks hlinks) (locate_end hend)
  exact hwalk

end Settled

/-! ## Ends of paths -/

/-- A component that names an entry of a directory. -/
def IsName (run : String) : Prop :=
  run ≠ "" ∧ run ≠ "." ∧ run ≠ ".." ∧ '\x00' ∉ run.toList

instance (run : String) : Decidable (IsName run) :=
  inferInstanceAs (Decidable (_ ∧ _ ∧ _ ∧ _))

/-- A place without links on the way, whose names can be written. -/
structure IsEnd (fs : FileSystem α) (place : Location) : Prop where
  settled : Settled fs place
  noNul : ∀ name ∈ place, '\x00' ∉ name.toList

namespace IsEnd

variable {place : Location}

theorem root (fs : FileSystem α) : IsEnd fs [] := ⟨Settled.root fs, by simp⟩

theorem dropLast (h : IsEnd fs place) : IsEnd fs place.dropLast :=
  ⟨h.settled.dropLast, fun name hname => h.noNul name (List.dropLast_subset place hname)⟩

theorem snoc {run : String} (h : IsEnd fs place) (hrun : IsName run)
    (hlink : fs.linkAt (place ++ [run]) = none) : IsEnd fs (place ++ [run]) := by
  refine ⟨h.settled.snoc ⟨hrun.1, hrun.2.1, hrun.2.2.1⟩ hlink, fun name hname => ?_⟩
  rcases List.mem_append.mp hname with hname | hname
  · exact h.noNul name hname
  · rw [List.mem_singleton.mp hname]
    exact hrun.2.2.2

theorem linkStart (h : IsEnd fs place) (target : String) : IsEnd fs (linkStart place target) := by
  unfold FileSystem.linkStart
  split
  · exact root fs
  · exact h

end IsEnd

/-! ## Resolution -/

/-- One step of resolution, by the link that stands ahead. -/
theorem resolveFrom_cons
    (follow : List Location → Location → List String → Except ResolveError Resolution)
    (active : List Location) (place : Location) (run : String) (rest : List String) :
    fs.resolveFrom follow active place (run :: rest) =
      if run = "" ∨ run = "." then fs.resolveFrom follow active place rest
      else if run = ".." then fs.resolveFrom follow active place.dropLast rest
      else if '\x00' ∈ run.toList then .error .embeddedNul
      else
        match fs.linkAt (place ++ [run]) with
        | some target =>
          if place ++ [run] ∈ active then
            .ok (.stuck (continueText (Path.absolute (place ++ [run])).text rest))
          else
            match follow ((place ++ [run]) :: active) (linkStart place target)
                (Path.runsOf target) with
            | .ok (.reached there) => fs.resolveFrom follow active there rest
            | .ok (.stuck text) => .ok (.stuck (continueText text rest))
            | .error e => .error e
        | none => fs.resolveFrom follow active (place ++ [run]) rest := by
  rw [linkAt_eq_bind]
  simp only [resolveFrom]
  cases fs.entryAt (place ++ [run]) with
  | none => rfl
  | some e => cases e <;> rfl

theorem resolveFrom_of_sameLinks (hlinks : SameLinks fs fs')
    (follow : List Location → Location → List String → Except ResolveError Resolution)
    (active : List Location) (place : Location) (runs : List String) :
    fs'.resolveFrom follow active place runs = fs.resolveFrom follow active place runs := by
  induction runs generalizing place with
  | nil => rfl
  | cons run rest ih => simp only [resolveFrom_cons, ih, hlinks.linkAt_eq]

/-- Only the links of a file system count when a path is resolved. -/
theorem resolveWithin_of_sameLinks (hlinks : SameLinks fs fs') (depth : Nat) :
    fs'.resolveWithin depth = fs.resolveWithin depth := by
  induction depth with
  | zero =>
    funext active place runs
    exact resolveFrom_of_sameLinks hlinks _ active place runs
  | succ depth ih =>
    funext active place runs
    rw [resolveWithin, resolveWithin, ih]
    exact resolveFrom_of_sameLinks hlinks _ active place runs

/-- Resolution from an end that follows links to ends comes to one. -/
theorem isEnd_of_resolveFrom
    {follow : List Location → Location → List String → Except ResolveError Resolution}
    (hfollow : ∀ active place runs there, IsEnd fs place →
      follow active place runs = .ok (.reached there) → IsEnd fs there)
    {active : List Location} {place there : Location} {runs : List String}
    (hplace : IsEnd fs place)
    (h : fs.resolveFrom follow active place runs = .ok (.reached there)) : IsEnd fs there := by
  induction runs generalizing place with
  | nil =>
    simp only [resolveFrom] at h
    cases h
    exact hplace
  | cons run rest ih =>
    rw [resolveFrom_cons] at h
    by_cases hdot : run = "" ∨ run = "."
    · rw [if_pos hdot] at h
      exact ih hplace h
    rw [if_neg hdot] at h
    by_cases hdots : run = ".."
    · rw [if_pos hdots] at h
      exact ih hplace.dropLast h
    rw [if_neg hdots] at h
    by_cases hnul : '\x00' ∈ run.toList
    · rw [if_pos hnul] at h
      cases h
    rw [if_neg hnul] at h
    cases hlink : fs.linkAt (place ++ [run]) with
    | none =>
      rw [hlink] at h
      obtain ⟨hempty, hdot⟩ := not_or.mp hdot
      exact ih (hplace.snoc ⟨hempty, hdot, hdots, hnul⟩ hlink) h
    | some target =>
      simp only [hlink] at h
      by_cases hactive : place ++ [run] ∈ active
      · rw [if_pos hactive] at h
        cases h
      rw [if_neg hactive] at h
      -- a target is followed from the root or from the directory of its link, both are ends
      split at h
      · next there hthere => exact ih (hfollow _ _ _ there (hplace.linkStart target) hthere) h
      · cases h
      · cases h

theorem isEnd_of_resolveWithin {depth : Nat} {active : List Location} {place there : Location}
    {runs : List String} (hplace : IsEnd fs place)
    (h : fs.resolveWithin depth active place runs = .ok (.reached there)) : IsEnd fs there := by
  induction depth generalizing active place runs there with
  | zero => exact isEnd_of_resolveFrom (fun _ _ _ _ _ h => by cases h) hplace h
  | succ depth ih => exact isEnd_of_resolveFrom (fun _ _ _ _ hplace h => ih hplace h) hplace h

/-- The links on a path can be followed to the end, and this is where they lead. -/
def Reaches (fs : FileSystem α) (p : Path) (place : Location) : Prop :=
  fs.resolveWithin fs.linkCount [] [] p.parts = .ok (.reached place)

theorem Reaches.isEnd {p : Path} {place : Location} (h : Reaches fs p place) : IsEnd fs place :=
  isEnd_of_resolveWithin (IsEnd.root fs) h

theorem Reaches.settled {p : Path} {place : Location} (h : Reaches fs p place) :
    Settled fs place :=
  h.isEnd.settled

theorem Reaches.resolve_eq {p : Path} {place : Location} (h : Reaches fs p place) :
    fs.resolve p = .ok (Path.absolute place) := by
  unfold Reaches at h
  rw [resolve, h]

/-- A path on which resolution runs into a loop of links. -/
def RunsIntoLoop (fs : FileSystem α) (p : Path) : Prop :=
  ∃ text, fs.resolveWithin fs.linkCount [] [] p.parts = .ok (.stuck text)

/-- A path that resolves can be followed to the end, or runs into a loop. -/
theorem reaches_or_runsIntoLoop {p resolved : Path} (h : fs.resolve p = .ok resolved) :
    (∃ place, Reaches fs p place ∧ resolved = Path.absolute place) ∨ RunsIntoLoop fs p := by
  unfold resolve at h
  split at h
  · cases h
  · next place hplace => exact .inl ⟨place, hplace, (Except.ok.inj h).symm⟩
  · next text htext => exact .inr ⟨text, htext⟩

theorem not_runsIntoLoop (hcount : fs.linkCount = 0) (p : Path) : ¬ RunsIntoLoop fs p := by
  have hfrom : ∀ follow active place runs text,
      fs.resolveFrom follow active place runs ≠ .ok (.stuck text) := by
    intro follow active place runs text
    induction runs generalizing place with
    | nil =>
      intro h
      cases h
    | cons run rest ih =>
      rw [resolveFrom_cons, linkAt_eq_none hcount]
      split
      · exact ih place
      split
      · exact ih place.dropLast
      split
      · intro h
        cases h
      · exact ih (place ++ [run])
  rintro ⟨text, hstuck⟩
  rw [hcount] at hstuck
  exact hfrom _ _ _ _ text hstuck

/-! ## Resolution in a file system that has grown -/

/-- In a file system that has grown no other path resolves than before, and none to another path. -/
theorem GrowsTo.resolve_eq (h : GrowsTo fs fs') {p resolved : Path}
    (hresolve : fs'.resolve p = .ok resolved) : fs.resolve p = .ok resolved := by
  have hcheck : ∀ q resolved, fs'.checkLoop q = .ok resolved → fs.checkLoop q = .ok resolved := by
    intro q resolved hok
    unfold checkLoop at hok ⊢
    split
    · next hloop =>
      rw [h.locate_failed (.inl rfl) .look q hloop] at hok
      cases hok
    · next hnul =>
      rw [h.locate_failed (.inr rfl) .look q hnul] at hok
      cases hok
    · split at hok
      · cases hok
      · cases hok
      · exact hok
  unfold resolve at hresolve ⊢
  rw [resolveWithin_of_sameLinks h.sameLinks, ← h.sameLinks.linkCount_eq] at hresolve
  split at hresolve
  · cases hresolve
  · exact hresolve
  · exact hcheck _ _ hresolve

end WorkbookTools.FileSystem
