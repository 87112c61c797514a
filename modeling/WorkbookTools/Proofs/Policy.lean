import WorkbookTools.Policy
import WorkbookTools.Proofs.FileSystem.Contents
import WorkbookTools.Proofs.FileSystem.Resolution

/-!
# What a policy with a root permits

A place is permitted if it is the root or below it and no denied pattern matches it. The check of a
path looks at the path to which it resolves. If the links on the path can be followed to the end,
that is the place to which the path leads, and the check is right. Where resolution runs into a loop
of links, the checked path may hold links itself and lead elsewhere.

* `leadsWithin_of_allow`: where a path leads that the policy allows.
* `Permits.of_growsTo`: while entries are added no place becomes permitted.
-/

namespace WorkbookTools

variable {α β : Type} {fs fs' : FileSystem α}

/-- All places to which the path may lead have the property, whatever directories and files there
are beside the links. -/
def LeadsWithin (P : Location → Prop) (fs : FileSystem α) (p : Path) : Prop :=
  ∀ place, fs.MayLeadTo p place → P place

theorem LeadsWithin.mono {P Q : Location → Prop} {p : Path} (h : LeadsWithin P fs p)
    (hPQ : ∀ place, P place → Q place) : LeadsWithin Q fs p :=
  fun place hplace => hPQ place (h place hplace)

/-- A path that may lead to a place leads nowhere else. -/
theorem leadsWithin_iff {P : Location → Prop} {p : Path} {place : Location}
    (h : fs.MayLeadTo p place) : LeadsWithin P fs p ↔ P place := by
  constructor
  · intro hwithin
    exact hwithin place h
  · intro hplace other hother
    rw [hother.unique h]
    exact hplace

theorem LeadsWithin.of_sameLinks {P : Location → Prop} {p : Path} (h : LeadsWithin P fs p)
    (hlinks : FileSystem.SameLinks fs fs') : LeadsWithin P fs' p :=
  fun place hplace => h place (hplace.of_sameLinks hlinks.symm)

namespace PathPolicy

variable {policy : PathPolicy}

/-! ## Permitted places -/

/-- None of the denied patterns matches the path. -/
def Accepts (policy : PathPolicy) (p : Path) : Prop :=
  ∀ pattern ∈ policy.denied, p.matches? pattern = some false

/-- The place is the root or below it, and no denied pattern matches its path or the part of the
path below the root. -/
def Permits (policy : PathPolicy) (fs : FileSystem α) (place : Location) : Prop :=
  ∃ root parts, policy.resolvedRoot fs = .ok (some root) ∧
    root.below? (Path.absolute place) = some parts ∧
    policy.Accepts (Path.absolute place) ∧ policy.Accepts ⟨.here, parts⟩

theorem mapM_all_false {γ : Type} {f : γ → Option Bool} {l : List γ} {results : List Bool}
    (h : l.mapM f = some results) (hnone : ¬ results.any id) : ∀ a ∈ l, f a = some false := by
  induction l generalizing results with
  | nil => simp
  | cons a rest ih =>
    rw [List.mapM_cons] at h
    obtain ⟨first, hfirst, h⟩ := Option.bind_eq_some_iff.mp h
    obtain ⟨others, hothers, h⟩ := Option.bind_eq_some_iff.mp h
    obtain rfl : first :: others = results := Option.some.inj h
    obtain ⟨hfirst', hothers'⟩ : first = false ∧ ¬ others.any id := by simpa using hnone
    intro b hb
    rcases List.mem_cons.mp hb with rfl | hb
    · rw [hfirst, hfirst']
    · exact ih hothers hothers' b hb

theorem deniedBy_eq_false {paths : List Path} {patterns : List String}
    (h : deniedBy paths patterns = .ok false) :
    ∀ pattern ∈ patterns, ∀ p ∈ paths, p.matches? pattern = some false := by
  induction patterns with
  | nil => simp
  | cons pattern rest ih =>
    unfold deniedBy at h
    split at h
    · cases h
    · next results hresults =>
      split at h
      · cases h
      · next hnone =>
        intro other hother p hp
        rcases List.mem_cons.mp hother with rfl | hother
        · exact mapM_all_false hresults hnone p hp
        · exact ih h other hother p hp

/-! ## Allowed paths -/

/-- The path that a request stands for: a relative one is taken from the root. -/
def requested (root p : Path) : Path := if p.isAbsolute then p else root.append p

/-- The check of a path by a policy whose root is known. -/
theorem allow_of_resolvedRoot {root : Path} (hroot : policy.resolvedRoot fs = .ok (some root))
    (p : Path) :
    policy.allow fs p =
      match fs.resolve (requested root p) with
      | .error e => .error (.unresolvable e)
      | .ok resolved =>
        match root.below? resolved with
        | none => .error (.outsideRoot resolved root)
        | some parts =>
          match deniedBy [resolved, ⟨.here, parts⟩] policy.denied with
          | .error e => .error e
          | .ok true => .error (.denied resolved)
          | .ok false => .ok resolved := by
  unfold allow requested
  rw [hroot]
  simp only [bind, Except.bind, pure, Except.pure]
  cases fs.resolve (if p.isAbsolute then p else root.append p) with
  | error e => rfl
  | ok resolved =>
    have hmap : (Except.ok resolved : Except ResolveError Path).mapError PolicyError.unresolvable =
        .ok resolved := rfl
    simp only [hmap]
    cases root.below? resolved with
    | none => rfl
    | some parts =>
      simp only
      cases deniedBy [resolved, ⟨.here, parts⟩] policy.denied with
      | error e => rfl
      | ok isDenied => cases isDenied <;> rfl

theorem resolvedRoot_of_root {root : Path} (hroot : policy.root = some root) :
    policy.resolvedRoot fs =
      match fs.resolve root with
      | .ok p => .ok (some p)
      | .error e => .error (.unresolvable e) := by
  cases hresolve : fs.resolve root <;> simp only [resolvedRoot, hroot, hresolve]

theorem exists_resolvedRoot {p resolved : Path} (hroot : policy.root ≠ none)
    (h : policy.allow fs p = .ok resolved) : ∃ root, policy.resolvedRoot fs = .ok (some root) := by
  obtain ⟨root, hroot⟩ := Option.ne_none_iff_exists'.mp hroot
  cases hresolve : fs.resolve root with
  | ok found => exact ⟨found, by rw [resolvedRoot_of_root hroot, hresolve]⟩
  | error e =>
    unfold allow at h
    rw [resolvedRoot_of_root hroot, hresolve] at h
    cases h

/-- Resolution of the path, as the policy takes it, runs into a loop of links. -/
def MeetsLoop (policy : PathPolicy) (fs : FileSystem α) (p : Path) : Prop :=
  ∃ root, policy.resolvedRoot fs = .ok (some root) ∧ fs.RunsIntoLoop (requested root p)

/-- A path that a policy with a root allows resolves to a permitted place, unless resolution runs
into a loop of links. -/
theorem allow_ok {p resolved : Path} (hroot : policy.root ≠ none)
    (h : policy.allow fs p = .ok resolved) :
    policy.MeetsLoop fs p ∨
      ∃ q place, fs.Reaches q place ∧ resolved = Path.absolute place ∧ policy.Permits fs place := by
  obtain ⟨root, hroot⟩ := exists_resolvedRoot hroot h
  rw [allow_of_resolvedRoot hroot] at h
  split at h
  · cases h
  · next found hfound =>
    split at h
    · cases h
    · next parts hparts =>
      split at h
      · cases h
      · cases h
      · next hdenied =>
        cases h
        rcases FileSystem.reaches_or_runsIntoLoop hfound with ⟨place, hplace, rfl⟩ | hloop
        · have haccepts := deniedBy_eq_false hdenied
          refine .inr ⟨_, place, hplace, rfl, root, parts, hroot, hparts, ?_, ?_⟩
          · exact fun pattern hpattern => haccepts pattern hpattern _ (by simp)
          · exact fun pattern hpattern => haccepts pattern hpattern _ (by simp)
        · exact .inl ⟨root, hroot, hloop⟩

theorem leadsWithin_of_reaches {P : Location → Prop} {p : Path} {place : Location}
    (hplace : fs.Reaches p place) (hP : P place) : LeadsWithin P fs (Path.absolute place) := by
  intro other hother
  rw [hplace.settled.unique hother]
  exact hP

/-- A path that a policy with a root allows leads to permitted places only, unless resolution runs
into a loop of links. -/
theorem leadsWithin_of_allow {p resolved : Path} (hroot : policy.root ≠ none)
    (h : policy.allow fs p = .ok resolved) :
    policy.MeetsLoop fs p ∨ LeadsWithin (policy.Permits fs) fs resolved := by
  rcases allow_ok hroot h with hloop | ⟨q, place, hplace, rfl, hpermits⟩
  · exact .inl hloop
  · exact .inr (leadsWithin_of_reaches hplace hpermits)

/-! ## Changes of the file system -/

/-- While entries are added no place becomes permitted. -/
theorem Permits.of_growsTo {place : Location} (hgrows : fs.GrowsTo fs')
    (h : policy.Permits fs' place) : policy.Permits fs place := by
  obtain ⟨root, parts, hroot, hbelow, haccepts⟩ := h
  refine ⟨root, parts, ?_, hbelow, haccepts⟩
  cases hpolicy : policy.root with
  | none =>
    rw [resolvedRoot, hpolicy] at hroot
    cases hroot
  | some given =>
    rw [resolvedRoot_of_root hpolicy] at hroot ⊢
    cases hresolve : fs'.resolve given with
    | error e =>
      rw [hresolve] at hroot
      cases hroot
    | ok found =>
      rw [hresolve] at hroot
      rw [hgrows.resolve_eq hresolve]
      exact hroot

variable {g : Location → α → β}

@[simp] theorem resolvePath_mapContents (policy : Option PathPolicy) (fs : FileSystem α) (p : Path) :
    resolvePath policy (fs.mapContents g) p = resolvePath policy fs p := by
  have hroot : ∀ policy : PathPolicy,
      policy.resolvedRoot (fs.mapContents g) = policy.resolvedRoot fs := by
    intro policy
    simp only [resolvedRoot, FileSystem.resolve_mapContents]
  cases policy with
  | none => simp only [resolvePath, FileSystem.resolve_mapContents]
  | some policy => simp only [resolvePath, allow, hroot, FileSystem.resolve_mapContents]

end PathPolicy

end WorkbookTools
