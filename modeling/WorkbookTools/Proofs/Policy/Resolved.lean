import WorkbookTools.Proofs.Action
import WorkbookTools.Proofs.Policy.Targets

/-!
# Resolved paths

A path that has been resolved starts at the root and its components are names, also where resolution
ran into a loop of links. Without loops, a path that a policy answers with is answered with itself, as
long as the links stay the same.

* `resolve_names`, `resolvePath_names`: the components of resolved paths.
* `resolve_isAbsolute`: where they start.
* `resolvePath_again`: resolved paths are resolved to themselves.
-/

namespace WorkbookTools

open FileSystem

variable {α : Type} {fs fs' : FileSystem α} {p resolved : Path}

namespace Path

theorem mem_intercalate {parts : List String} {part : String} (hpart : part ∈ parts) {c : Char}
    (hc : c ∈ part.toList) : c ∈ (String.intercalate "/" parts).toList := by
  induction parts with
  | nil => cases hpart
  | cons first rest ih =>
    cases rest with
    | nil =>
      rw [List.mem_singleton.mp hpart] at hc
      simpa using hc
    | cons second others =>
      rw [String.intercalate_cons_cons, String.toList_append, List.mem_append]
      rcases List.mem_cons.mp hpart with rfl | hrest
      · exact .inl (by simp [hc])
      · exact .inr (ih hrest)

/-- The written form has the characters of all components. -/
theorem mem_text {part : String} (hpart : part ∈ p.parts) {c : Char} (hc : c ∈ part.toList) :
    c ∈ p.text.toList := by
  have hparts : ¬ (p.anchor = .here ∧ p.parts = []) := by
    rintro ⟨-, hnil⟩
    rw [hnil] at hpart
    cases hpart
  rw [text, if_neg hparts, String.toList_append, List.mem_append]
  exact .inr (mem_intercalate hpart hc)

theorem plain_ofText {text part : String} (hpart : part ∈ (ofText text).parts) :
    part ≠ "" ∧ part ≠ "." := by
  have hfilter := (List.mem_filter.mp hpart).2
  simpa using hfilter

end Path

namespace FileSystem

theorem mem_collapse {place names : List String} {name : String}
    (h : name ∈ collapse place names) : name ∈ place ∨ name ∈ names ∧ name ≠ ".." := by
  induction names generalizing place with
  | nil => exact .inl h
  | cons first rest ih =>
    unfold collapse at h
    split at h
    · rcases ih h with hplace | ⟨hrest, hdots⟩
      · exact .inl (List.dropLast_subset place hplace)
      · exact .inr ⟨List.mem_cons_of_mem _ hrest, hdots⟩
    · next hfirst =>
      rcases ih h with hplace | ⟨hrest, hdots⟩
      · rcases List.mem_append.mp hplace with hplace | hlast
        · exact .inl hplace
        · rw [List.mem_singleton.mp hlast]
          exact .inr ⟨List.mem_cons_self, hfirst⟩
      · exact .inr ⟨List.mem_cons_of_mem _ hrest, hdots⟩

/-- What a path resolves to is made of names. -/
theorem resolve_names (h : fs.resolve p = .ok resolved) : ∀ name ∈ resolved.parts, IsName name := by
  intro name hname
  unfold resolve at h
  split at h
  · cases h
  · next place hplace =>
    cases h
    have hend : IsEnd fs place := Reaches.isEnd hplace
    obtain ⟨hempty, hdot, hdots⟩ := hend.settled.plain name hname
    exact ⟨hempty, hdot, hdots, hend.noNul name hname⟩
  · next text htext =>
    unfold checkLoop at h
    split at h
    · cases h
    · cases h
    · next hloop hnul =>
      cases h
      rcases mem_collapse hname with hnone | ⟨htext, hdots⟩
      · cases hnone
      · obtain ⟨hempty, hdot⟩ := Path.plain_ofText htext
        refine ⟨hempty, hdot, hdots, fun hzero => hnul ?_⟩
        rw [locate, if_pos (Path.mem_text hname hzero)]

/-! ## Where resolved paths start -/

theorem head_absolute (place : Location) :
    (Path.absolute place).text.toList.head? = some '/' := by
  have hanchor : (Path.absolute place).anchor.text = "/" := rfl
  have hslash : "/".toList = ['/'] := rfl
  have hroot : ¬ ((Path.absolute place).anchor = .here ∧ (Path.absolute place).parts = []) := nofun
  rw [Path.text, if_neg hroot, String.toList_append, hanchor, hslash]
  rfl

theorem continueText_head {text : String} (h : text.toList.head? = some '/') (runs : List String) :
    (continueText text runs).toList.head? = some '/' := by
  unfold continueText
  simp only
  split
  · next hrest => exact hrest
  · split
    · rw [String.toList_append, List.head?_append, h]
      rfl
    · rw [String.toList_append, String.toList_append, List.head?_append, List.head?_append, h]
      rfl

/-- Where resolution is stuck, the text of what is left starts at the root. -/
theorem stuck_of_resolveFrom
    {follow : List Location → Location → List String → Except ResolveError Resolution}
    (hfollow : ∀ active place runs text, follow active place runs = .ok (.stuck text) →
      text.toList.head? = some '/')
    {active : List Location} {place : Location} {runs : List String} {text : String}
    (h : fs.resolveFrom follow active place runs = .ok (.stuck text)) :
    text.toList.head? = some '/' := by
  induction runs generalizing place with
  | nil => cases h
  | cons run rest ih =>
    rw [resolveFrom_cons] at h
    split at h
    · exact ih h
    split at h
    · exact ih h
    split at h
    · cases h
    split at h
    · split at h
      · cases h
        exact continueText_head (head_absolute _) rest
      · split at h
        · exact ih h
        · next text htext =>
          cases h
          exact continueText_head (hfollow _ _ _ _ htext) rest
        · cases h
    · exact ih h

theorem stuck_of_resolveWithin {depth : Nat} {active : List Location} {place : Location}
    {runs : List String} {text : String}
    (h : fs.resolveWithin depth active place runs = .ok (.stuck text)) :
    text.toList.head? = some '/' := by
  induction depth generalizing active place runs text with
  | zero =>
    refine stuck_of_resolveFrom (fun active place runs text hstuck => ?_) h
    cases hstuck
    exact continueText_head (head_absolute place) runs
  | succ depth ih => exact stuck_of_resolveFrom (fun _ _ _ _ hstuck => ih hstuck) h

/-- What a path resolves to starts at the root. -/
theorem resolve_isAbsolute (h : fs.resolve p = .ok resolved) : resolved.isAbsolute = true := by
  unfold resolve at h
  split at h
  · cases h
  · cases h
    rfl
  · next text htext =>
    have hhead := stuck_of_resolveWithin htext
    unfold checkLoop at h
    split at h
    · cases h
    · cases h
    · cases h
      refine decide_eq_true fun hanchor => ?_
      have hhere : Path.anchorOf text = .here := hanchor
      unfold Path.anchorOf at hhere
      split at hhere
      · cases hhere
      · cases hhere
      · cases hhere
      · next hslash =>
        obtain ⟨rest, hrest⟩ := List.head?_eq_some_iff.mp hhead
        exact hslash rest hrest

/-- Without loops, what a path resolves to is an end. -/
theorem LinksEnd.resolve_ok (hloops : LinksEnd fs) (h : fs.resolve p = .ok resolved) :
    ∃ n place, FollowsTo fs n [] p.parts place ∧ resolved = Path.absolute place ∧
      IsEnd fs place := by
  have hnul : ∀ part ∈ p.parts, '\x00' ∉ part.toList := by
    intro part hpart hzero
    rw [hloops.resolve_error ⟨part, hpart, hzero⟩] at h
    cases h
  obtain ⟨n, place, hfollows⟩ := hloops.exists_followsTo hnul []
  rw [hfollows.resolve_eq] at h
  exact ⟨n, place, hfollows, (Except.ok.inj h).symm, hfollows.isEnd (IsEnd.root fs)⟩

/-- Only links matter for where a path leads. -/
theorem FollowsTo.of_sameLinks {n : Nat} {place q : Location} {runs : List String}
    (h : FollowsTo fs n place runs q) (hlinks : SameLinks fs fs') :
    FollowsTo fs' n place runs q := by
  induction h with
  | nil place => exact .nil place
  | stay hrun _ ih => exact .stay hrun ih
  | up _ ih => exact .up ih
  | enter hname hlink _ ih => exact .enter hname (by rw [← hlinks.linkAt_eq, hlink]) ih
  | link hname hlink _ _ ihtarget ih =>
    exact .link hname (by rw [← hlinks.linkAt_eq, hlink]) ihtarget ih

theorem IsEnd.of_sameLinks {place : Location} (h : IsEnd fs place) (hlinks : SameLinks fs fs') :
    IsEnd fs' place :=
  ⟨h.settled.of_sameLinks hlinks, h.noNul⟩

theorem IsEnd.resolve_eq {place : Location} (h : IsEnd fs place) :
    fs.resolve (Path.absolute place) = .ok (Path.absolute place) :=
  FollowsTo.resolve_eq h.followsTo

/-- Without loops, paths resolve as before as long as the links stay the same. -/
theorem LinksEnd.resolve_of_sameLinks (hloops : LinksEnd fs) (hlinks : SameLinks fs fs')
    (h : fs.resolve p = .ok resolved) : fs'.resolve p = .ok resolved := by
  obtain ⟨n, place, hfollows, rfl, -⟩ := hloops.resolve_ok h
  exact (hfollows.of_sameLinks hlinks).resolve_eq

end FileSystem

namespace PathPolicy

variable {policy : PathPolicy}

/-- What an answer of a policy says: a path resolves to it, and the policy accepts it for as long as
it resolves to itself and the root stays the same. -/
theorem allow_ok_resolves (h : policy.allow fs p = .ok resolved) :
    (∃ candidate, fs.resolve candidate = .ok resolved ∧ (p.isAbsolute → candidate = p)) ∧
      (resolved.isAbsolute → fs'.resolve resolved = .ok resolved →
        policy.resolvedRoot fs' = policy.resolvedRoot fs → policy.allow fs' resolved = .ok resolved) := by
  cases hpolicy : policy.root with
  | none =>
    have habsolute : p.isAbsolute := by
      by_contra hrelative
      unfold allow at h
      rw [resolvedRoot, hpolicy] at h
      simp only [if_neg hrelative] at h
      cases h
    rw [allow_of_no_root hpolicy habsolute] at h
    split at h
    · cases h
    · next found hfound =>
      split at h
      · cases h
      · cases h
      · next hdenied =>
        cases h
        refine ⟨⟨p, hfound, fun _ => rfl⟩, fun habsolute hself _ => ?_⟩
        rw [allow_of_no_root hpolicy habsolute, hself]
        simp only [hdenied]
  | some given =>
    obtain ⟨root, hroot⟩ := exists_resolvedRoot (by rw [hpolicy]; exact Option.some_ne_none given) h
    rw [allow_of_resolvedRoot hroot] at h
    split at h
    · cases h
    · next found hfound =>
      split at h
      · cases h
      · next parts hparts =>
        split at h
        · cases h
        · cases h
        · next hdenied =>
          cases h
          refine ⟨⟨_, hfound, fun habsolute => if_pos habsolute⟩, fun habsolute hself hsame => ?_⟩
          rw [allow_of_resolvedRoot (hsame.trans hroot), requested, if_pos habsolute, hself]
          simp only [hparts, hdenied]

theorem resolvedRoot_of_sameLinks (hloops : LinksEnd fs) (hlinks : SameLinks fs fs')
    {root? : Option Path} (h : policy.resolvedRoot fs = .ok root?) :
    policy.resolvedRoot fs' = .ok root? := by
  cases hpolicy : policy.root with
  | none =>
    rw [resolvedRoot, hpolicy] at h ⊢
    exact h
  | some given =>
    rw [resolvedRoot_of_root hpolicy] at h ⊢
    split at h
    · next found hfound =>
      rw [hloops.resolve_of_sameLinks hlinks hfound]
      exact h
    · cases h

theorem resolvePath_resolves {policy : Option PathPolicy}
    (h : resolvePath policy fs p = .ok resolved) :
    ∃ candidate, fs.resolve candidate = .ok resolved ∧ (p.isAbsolute → candidate = p) := by
  cases policy with
  | none => exact ⟨p, Action.mapError_eq_ok.mp h, fun _ => rfl⟩
  | some policy =>
    obtain ⟨hcandidate, -⟩ := @allow_ok_resolves _ fs fs _ _ _ h
    exact hcandidate

/-- The components of a path that has been resolved are names. -/
theorem resolvePath_names {policy : Option PathPolicy}
    (h : resolvePath policy fs p = .ok resolved) : ∀ name ∈ resolved.parts, IsName name := by
  obtain ⟨candidate, hcandidate, -⟩ := resolvePath_resolves h
  exact resolve_names hcandidate

/-- An end is resolved to itself or refused. -/
theorem resolvePath_end {policy : Option PathPolicy} {place : Location} (hend : IsEnd fs place)
    (h : resolvePath policy fs (Path.absolute place) = .ok resolved) :
    resolved = Path.absolute place := by
  obtain ⟨candidate, hcandidate, hsame⟩ := resolvePath_resolves h
  rw [hsame rfl, hend.resolve_eq] at hcandidate
  exact (Except.ok.inj hcandidate).symm

/-- Without loops a path is resolved to an end. -/
theorem resolvePath_isEnd {policy : Option PathPolicy} (hloops : LinksEnd fs)
    (h : resolvePath policy fs p = .ok resolved) :
    ∃ place, resolved = Path.absolute place ∧ IsEnd fs place := by
  obtain ⟨candidate, hcandidate, -⟩ := resolvePath_resolves h
  obtain ⟨-, place, -, hplace, hend⟩ := hloops.resolve_ok hcandidate
  exact ⟨place, hplace, hend⟩

/-- Without loops, a path that has been resolved is resolved to itself, as long as the links stay the
same. -/
theorem resolvePath_again {policy : Option PathPolicy} (hloops : LinksEnd fs)
    (hlinks : SameLinks fs fs') (h : resolvePath policy fs p = .ok resolved) :
    resolvePath policy fs' resolved = .ok resolved := by
  obtain ⟨place, rfl, hend⟩ := resolvePath_isEnd hloops h
  have hself := (hend.of_sameLinks hlinks).resolve_eq
  cases policy with
  | none => exact Action.mapError_eq_ok.mpr hself
  | some policy =>
    have hroot : policy.resolvedRoot fs' = policy.resolvedRoot fs := by
      cases hroot : policy.resolvedRoot fs with
      | ok root? => exact resolvedRoot_of_sameLinks hloops hlinks hroot
      | error e =>
        have hfailed : policy.allow fs p = .error e := by
          unfold allow
          rw [hroot]
          rfl
        have hboth : policy.allow fs p = .ok (Path.absolute place) := h
        rw [hfailed] at hboth
        cases hboth
    exact (allow_ok_resolves h).2 rfl hself hroot

end PathPolicy

end WorkbookTools
