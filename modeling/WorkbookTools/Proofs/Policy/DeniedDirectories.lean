import WorkbookTools.Error
import WorkbookTools.Proofs.Path.Patterns
import WorkbookTools.Proofs.Policy.Resolved

/-!
# How far denied patterns reach

A policy refuses a path if a denied pattern matches what the path resolves to, however the path is
spelled. A directory followed by two stars is matched by what is directly in the directory, but not by
what is further down: there the pattern makes no difference, unless the names of the directory are
repeated. Two stars followed by a pattern of names reach every directory at or below the root.

* `refuses_of_matches`, `allow_without`: patterns that match, and patterns that make no difference.
* `directory_denied_iff`: the paths below a directory that are refused because of it.
* `nested_file_is_allowed`: a file that is not.
-/

namespace WorkbookTools.PathPolicy

open FileSystem

variable {α : Type} {fs : FileSystem α} {policy : PathPolicy} {root base p resolved : Path}
  {parts : List String} {pattern : String}

/-! ## Patterns that match -/

/-- The policy refuses the path as a value that is not allowed. -/
def Refuses (policy : PathPolicy) (fs : FileSystem α) (p : Path) : Prop :=
  ∃ e, policy.allow fs p = .error e ∧ e.category = .value

theorem deniedBy_error {paths : List Path} {patterns : List String} {e : PolicyError}
    (h : deniedBy paths patterns = .error e) : e = .emptyPattern := by
  induction patterns with
  | nil => cases h
  | cons pattern rest ih =>
    unfold deniedBy at h
    split at h
    · exact (Except.error.inj h).symm
    · split at h
      · cases h
      · exact ih h

/-- A policy refuses a path if a denied pattern matches what the path resolves to. -/
theorem refuses_of_matches (hroot : policy.resolvedRoot fs = .ok (some base))
    (hresolved : fs.resolve (requested base p) = .ok resolved)
    (hbelow : base.below? resolved = some parts) (hpattern : pattern ∈ policy.denied)
    (hmatch : resolved.matches? pattern = some true) : policy.Refuses fs p := by
  unfold Refuses
  rw [allow_of_resolvedRoot hroot, hresolved]
  simp only [hbelow]
  cases hdenied : deniedBy [resolved, ⟨.here, parts⟩] policy.denied with
  | error e =>
    obtain rfl := deniedBy_error hdenied
    exact ⟨_, rfl, rfl⟩
  | ok isDenied =>
    cases isDenied with
    | true => exact ⟨_, rfl, rfl⟩
    | false =>
      have hnone := deniedBy_eq_false hdenied pattern hpattern resolved List.mem_cons_self
      rw [hmatch] at hnone
      cases hnone

/-! ## Patterns that make no difference -/

/-- The policy without one of its patterns. -/
def without (policy : PathPolicy) (pattern : String) : PathPolicy :=
  { policy with denied := policy.denied.filter (· ≠ pattern) }

theorem mapM_matches?_of_none {paths : List Path}
    (hnone : ∀ p ∈ paths, p.matches? pattern = some false) :
    paths.mapM (·.matches? pattern) = some (paths.map fun _ => false) := by
  induction paths with
  | nil => rfl
  | cons p rest ih =>
    obtain ⟨hp, hrest⟩ := List.forall_mem_cons.mp hnone
    rw [List.mapM_cons, hp, ih hrest]
    rfl

/-- A pattern that matches none of the paths can be left out. -/
theorem deniedBy_filter {paths : List Path} (hnone : ∀ p ∈ paths, p.matches? pattern = some false)
    (patterns : List String) :
    deniedBy paths (patterns.filter (· ≠ pattern)) = deniedBy paths patterns := by
  induction patterns with
  | nil => rfl
  | cons first rest ih =>
    by_cases hfirst : first = pattern
    · subst hfirst
      have hquiet : ¬ (paths.map fun _ => false).any id = true := by simp
      rw [List.filter_cons_of_neg (by simp), ih]
      conv_rhs => rw [deniedBy, mapM_matches?_of_none hnone]
      simp only [if_neg hquiet]
    · rw [List.filter_cons_of_pos (by simpa using hfirst), deniedBy, deniedBy, ih]

theorem allow_without (hroot : policy.resolvedRoot fs = .ok (some base))
    (hresolved : fs.resolve (requested base p) = .ok resolved)
    (hbelow : base.below? resolved = some parts)
    (hnone : resolved.matches? pattern = some false)
    (hrelative : (⟨.here, parts⟩ : Path).matches? pattern = some false) :
    (policy.without pattern).allow fs p = policy.allow fs p := by
  have hpaths : ∀ q ∈ [resolved, ⟨.here, parts⟩], q.matches? pattern = some false := by
    simp [hnone, hrelative]
  have hwithout : (policy.without pattern).resolvedRoot fs = .ok (some base) := hroot
  rw [allow_of_resolvedRoot hroot, allow_of_resolvedRoot hwithout, hresolved]
  simp only [hbelow, without, deniedBy_filter hpaths]

/-! ## Paths below the root -/

theorem parts_of_below? {q : Path} (h : base.below? q = some parts) :
    q.parts = base.parts ++ parts := by
  unfold Path.below? at h
  split at h
  · next hbase =>
    obtain ⟨more, hmore⟩ := hbase.2
    cases h
    rw [← hmore, List.drop_left]
  · cases h

theorem components_of_below? {q : Path} (habsolute : q.isAbsolute = true)
    (h : base.below? q = some parts) :
    q.components = (q.anchor.text :: base.parts) ++ parts := by
  rw [Path.components, if_pos habsolute, parts_of_below? h]
  rfl

/-- A directory with two stars matches a path below it, or the part of the path below the root, just if
the names of the directory come right above the last one. -/
theorem matches?_below {directory rest : List String} (habsolute : resolved.isAbsolute = true)
    (hbelow : base.below? resolved = some (directory ++ rest))
    (hdirectory : Path.IsPlainDirectory directory) (hrest : rest ≠ []) :
    resolved.matches? (Path.belowPattern directory) =
        some (decide (directory <:+ directory ++ rest.dropLast)) ∧
      (⟨.here, directory ++ rest⟩ : Path).matches? (Path.belowPattern directory) =
        some (decide (directory <:+ directory ++ rest.dropLast)) := by
  have hrelative : (⟨.here, directory ++ rest⟩ : Path).components = [] ++ (directory ++ rest) := rfl
  exact ⟨Path.matches?_belowPattern hdirectory hrest (components_of_below? habsolute hbelow),
    Path.matches?_belowPattern hdirectory hrest hrelative⟩

/-- Two stars and a pattern of names match a path at any depth below the root. -/
theorem matches?_anywhere {name : String} (hresolved : fs.resolve p = .ok resolved)
    (hbelow : base.below? resolved = some parts) (hname : parts.getLast? = some name)
    (hslash : '/' ∉ pattern.toList) (hmatch : Glob.matchText pattern name = true) :
    resolved.matches? (Path.anywherePattern pattern) = some true := by
  obtain ⟨above, rfl⟩ := List.getLast?_eq_some_iff.mp hname
  have hparts := parts_of_below? hbelow
  -- A pattern that reads as no component at all matches no name.
  have hplain : IsName name := by
    refine resolve_names hresolved name ?_
    rw [hparts, ← List.append_assoc]
    exact List.mem_append_right _ (List.mem_singleton_self name)
  have hcomponent : Path.IsComponent pattern := by
    refine ⟨?_, ?_, hslash⟩
    · rintro rfl
      exact hplain.1 ((Glob.matchText_plain (by decide)).mp hmatch)
    · rintro rfl
      exact hplain.2.1 ((Glob.matchText_plain (by decide)).mp hmatch)
  have hcomponents := components_of_below? (resolve_isAbsolute hresolved) hbelow
  obtain ⟨before, last, hlast⟩ :
      ∃ before last, resolved.anchor.text :: (base.parts ++ above) = before ++ [last] := by
    obtain ⟨before, last, hlast⟩ := (List.eq_nil_or_concat
      (resolved.anchor.text :: (base.parts ++ above))).resolve_left (List.cons_ne_nil _ _)
    exact ⟨before, last, by rw [hlast, List.concat_eq_append]⟩
  have htwo : resolved.components = before ++ [last, name] := by
    rw [hcomponents, ← List.append_assoc, List.cons_append, hlast, List.append_assoc]
    rfl
  rw [Path.matches?_anywherePattern hcomponent htwo, hmatch]

/-! ## The result -/

/-- Let a path resolve to somewhere at or below a root. If it is below a directory of the root, the
policies that deny the directory with two stars all refuse it just if the names of the directory come
right above its last one; so they refuse what is directly in the directory. Otherwise the pattern makes
no difference for any policy. If its name matches a pattern, all policies refuse it that deny two stars
and this pattern. -/
theorem directory_denied_iff (fs : FileSystem α) (root base p resolved : Path) (parts : List String)
    (hroot : fs.resolve root = .ok base)
    (hresolved : fs.resolve (requested base p) = .ok resolved)
    (hbelow : base.below? resolved = some parts) :
    (∀ directory rest, Path.IsPlainDirectory directory → rest ≠ [] → parts = directory ++ rest →
      ((∀ policy : PathPolicy, policy.root = some root →
          Path.belowPattern directory ∈ policy.denied → policy.Refuses fs p) ↔
        directory <:+ directory ++ rest.dropLast) ∧
      (rest.length = 1 → ∀ policy : PathPolicy, policy.root = some root →
        Path.belowPattern directory ∈ policy.denied → policy.Refuses fs p) ∧
      (¬ directory <:+ directory ++ rest.dropLast →
        ∀ policy : PathPolicy, policy.root = some root →
          (policy.without (Path.belowPattern directory)).allow fs p = policy.allow fs p)) ∧
    ∀ pattern name, '/' ∉ pattern.toList → parts.getLast? = some name →
      Glob.matchText pattern name = true →
        ∀ policy : PathPolicy, policy.root = some root →
          Path.anywherePattern pattern ∈ policy.denied → policy.Refuses fs p := by
  have hresolvedRoot : ∀ policy : PathPolicy, policy.root = some root →
      policy.resolvedRoot fs = .ok (some base) := by
    intro policy hpolicy
    rw [resolvedRoot_of_root hpolicy, hroot]
  refine ⟨fun directory rest hdirectory hrest hparts => ?_,
    fun pattern name hslash hname hmatch policy hpolicy hpattern =>
      refuses_of_matches (hresolvedRoot policy hpolicy) hresolved hbelow hpattern
        (matches?_anywhere hresolved hbelow hname hslash hmatch)⟩
  subst hparts
  obtain ⟨hwhole, hrelative⟩ :=
    matches?_below (resolve_isAbsolute hresolved) hbelow hdirectory hrest
  have hwithout : ¬ directory <:+ directory ++ rest.dropLast →
      ∀ policy : PathPolicy, policy.root = some root →
        (policy.without (Path.belowPattern directory)).allow fs p = policy.allow fs p := by
    intro hnone policy hpolicy
    rw [decide_eq_false hnone] at hwhole hrelative
    exact allow_without (hresolvedRoot policy hpolicy) hresolved hbelow hwhole hrelative
  have hrefuses : directory <:+ directory ++ rest.dropLast →
      ∀ policy : PathPolicy, policy.root = some root →
        Path.belowPattern directory ∈ policy.denied → policy.Refuses fs p := by
    intro hsuffix policy hpolicy hpattern
    rw [decide_eq_true hsuffix] at hwhole
    exact refuses_of_matches (hresolvedRoot policy hpolicy) hresolved hbelow hpattern hwhole
  refine ⟨⟨fun hall => ?_, hrefuses⟩, fun hone => hrefuses ?_, hwithout⟩
  · by_contra hnone
    -- A policy with no other pattern allows what its only pattern does not match.
    let only : PathPolicy := ⟨some root, [Path.belowPattern directory]⟩
    obtain ⟨e, he, -⟩ := hall only rfl List.mem_cons_self
    have hfree : only.without (Path.belowPattern directory) = ⟨some root, []⟩ := by
      simp [only, without]
    rw [← hwithout hnone only rfl, hfree, allow_of_resolvedRoot (hresolvedRoot _ rfl), hresolved] at he
    simp only [hbelow, deniedBy] at he
    cases he
  · obtain ⟨name, rfl⟩ := List.length_eq_one_iff.mp hone
    exact ⟨[], by simp⟩

/-! ## A directory and a link to it -/

/-- A directory with a link beside it that leads into it. -/
def sharedFiles : FileSystem Unit :=
  ⟨[(["ws"], .directory), (["ws", "secret"], .directory), (["ws", "open"], .link "secret")]⟩

/-- A policy with these patterns for the directory above. -/
def sharedPolicy (patterns : List String) : PathPolicy := ⟨some (Path.ofText "/ws"), patterns⟩

/-- What is directly in the directory is refused, also through the link, and so is its name; one
directory further down the pattern makes no difference. -/
theorem linked_file_is_refused :
    let direct := Path.ofText "open/./deep/../plan.xlsx"
    let nested := Path.ofText "open/deep/plan.xlsx"
    (sharedPolicy ["*.tmp", "secret/**"]).Refuses sharedFiles direct ∧
      (sharedPolicy ["**/plan.*"]).Refuses sharedFiles direct ∧
      (sharedPolicy ["**/plan.*"]).Refuses sharedFiles nested ∧
      (sharedPolicy ["*.tmp"]).allow sharedFiles nested =
        (sharedPolicy ["*.tmp", "secret/**"]).allow sharedFiles nested := by
  intro direct nested
  have hroot : sharedFiles.resolve (Path.ofText "/ws") = .ok (Path.absolute ["ws"]) := by
    decide +kernel
  have hplain : Path.IsPlainDirectory ["secret"] := by decide
  have hname : Glob.matchText "plan.*" "plan.xlsx" = true := by decide +kernel
  obtain ⟨hdirect, hdirectName⟩ := directory_denied_iff sharedFiles (Path.ofText "/ws")
    (Path.absolute ["ws"]) direct (Path.absolute ["ws", "secret", "plan.xlsx"])
    ["secret", "plan.xlsx"] hroot (by decide +kernel) (by decide)
  obtain ⟨hnested, hnestedName⟩ := directory_denied_iff sharedFiles (Path.ofText "/ws")
    (Path.absolute ["ws"]) nested (Path.absolute ["ws", "secret", "deep", "plan.xlsx"])
    ["secret", "deep", "plan.xlsx"] hroot (by decide +kernel) (by decide)
  obtain ⟨-, hone, -⟩ := hdirect ["secret"] ["plan.xlsx"] hplain (by decide) rfl
  obtain ⟨-, -, hwithout⟩ := hnested ["secret"] ["deep", "plan.xlsx"] hplain (by decide) rfl
  refine ⟨hone rfl _ rfl (by decide +kernel),
    hdirectName "plan.*" "plan.xlsx" (by decide) rfl hname _ rfl (by decide +kernel),
    hnestedName "plan.*" "plan.xlsx" (by decide) rfl hname _ rfl (by decide +kernel), ?_⟩
  have hleft : (sharedPolicy ["*.tmp", "secret/**"]).without (Path.belowPattern ["secret"]) =
      sharedPolicy ["*.tmp"] := by decide +kernel
  rw [← hleft]
  exact hwithout (by decide) (sharedPolicy ["*.tmp", "secret/**"]) rfl

/-- A file two directories down is below the denied directory and is allowed all the same, whether or
not these directories exist. -/
theorem nested_file_is_allowed :
    let files : FileSystem Unit := ⟨[]⟩
    let policy := sharedPolicy ["secret/**"]
    let p := Path.ofText "secret/deep/book.xlsx"
    let resolved := Path.absolute ["ws", "secret", "deep", "book.xlsx"]
    Path.belowPattern ["secret"] ∈ policy.denied ∧ Path.IsPlainDirectory ["secret"] ∧
      files.resolve (requested (Path.absolute ["ws"]) p) = .ok resolved ∧
      (Path.absolute ["ws"]).below? resolved = some (["secret"] ++ ["deep", "book.xlsx"]) ∧
      (∀ fs ∈ [files, sharedFiles], policy.allow fs p = .ok resolved ∧ ¬ policy.Refuses fs p) := by
  intro files policy p resolved
  have hallowed : ∀ fs ∈ [files, sharedFiles], policy.allow fs p = .ok resolved := by
    decide +kernel
  refine ⟨by decide +kernel, by decide, by decide +kernel, by decide, fun fs hfs => ?_⟩
  refine ⟨hallowed fs hfs, ?_⟩
  rintro ⟨e, he, -⟩
  rw [hallowed fs hfs] at he
  cases he

end WorkbookTools.PathPolicy
