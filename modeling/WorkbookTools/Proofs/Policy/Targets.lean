import WorkbookTools.Proofs.FileSystem.Following
import WorkbookTools.Proofs.Policy

/-!
# A policy decides on targets

In a file system without loops of links every path leads to one place, its target. A policy allows a
path if and only if its target is within the root and no denied pattern matches it, and it answers
with the path of the target. How the path was spelled makes no difference.

* `Path.matches?_of_below`: a pattern that matches a path below a directory matches the whole path.
* `allow_of_targets`: the answer of a policy, in terms of the target.
* `allow_iff_target_permitted`: soundness, completeness and independence of spelling.
-/

namespace WorkbookTools

open FileSystem

/-! ## Patterns -/

namespace Path

variable {pattern : String} {p : Path}

theorem matchPairs_append {patterns parts : List String} (more : List String)
    (h : patterns.length ≤ parts.length) :
    matchPairs patterns (parts ++ more) = matchPairs patterns parts := by
  induction patterns generalizing parts with
  | nil => rfl
  | cons first rest ih =>
    cases parts with
    | nil => simp at h
    | cons part others =>
      rw [List.cons_append, matchPairs, matchPairs, ih (by simpa using h)]

theorem isSome_matches? (h : (ofText pattern).components ≠ []) (p : Path) :
    (p.matches? pattern).isSome := by
  unfold matches?
  simp only [if_neg h]
  split <;> rfl

/-- A pattern that matches the part of a path below a directory matches the whole path, because only
relative patterns match relative paths. -/
theorem matches?_of_below {base place : Location} {parts : List String}
    (hbelow : (absolute base).below? (absolute place) = some parts)
    (h : (⟨.here, parts⟩ : Path).matches? pattern = some true) :
    (absolute place).matches? pattern = some true := by
  obtain ⟨above, rfl⟩ : ∃ above, place = above ++ parts := by
    unfold below? at hbelow
    split at hbelow
    · next hbase =>
      cases hbelow
      refine ⟨base, ?_⟩
      obtain ⟨rest, hrest⟩ := hbase.2
      simp only [absolute] at hrest ⊢
      rw [← hrest, List.drop_left]
    · cases hbelow
  have hcomponents : (absolute (above ++ parts)).components = ("/" :: above) ++ parts := rfl
  have hrelative : (⟨.here, parts⟩ : Path).components = parts := rfl
  unfold matches? at h ⊢
  simp only at h ⊢
  split at h
  · cases h
  next hpattern =>
  rw [if_neg hpattern]
  by_cases habsolute : (ofText pattern).isAbsolute
  · rw [if_pos habsolute] at h
    have hanchor : (ofText pattern).anchor = .here := by simpa using (of_decide_eq_true
      (Option.some.inj h)).1
    simp [isAbsolute, hanchor] at habsolute
  · rw [if_neg habsolute, hrelative] at h
    obtain ⟨hlength, hpairs⟩ := of_decide_eq_true (Option.some.inj h)
    rw [if_neg habsolute, hcomponents, List.reverse_append,
      matchPairs_append _ (by simpa using hlength)]
    refine congrArg some (decide_eq_true ⟨?_, hpairs⟩)
    rw [List.length_append]
    omega

theorem mem_of_mem_splitSlashes {s run : List Char} (h : run ∈ splitSlashes s) {c : Char}
    (hc : c ∈ run) : c ∈ s := by
  induction s generalizing run with
  | nil =>
    rw [splitSlashes, List.mem_singleton] at h
    rw [h] at hc
    exact hc
  | cons d rest ih =>
    unfold splitSlashes at h
    split at h
    · rcases List.mem_cons.mp h with rfl | h
      · cases hc
      · exact List.mem_cons_of_mem d (ih h hc)
    · split at h
      · rw [List.mem_singleton.mp h, List.mem_singleton] at hc
        exact hc ▸ List.mem_cons_self
      · next first others hsplit =>
        rcases List.mem_cons.mp h with rfl | h
        · rcases List.mem_cons.mp hc with rfl | hc
          · exact List.mem_cons_self
          · exact List.mem_cons_of_mem d (ih (hsplit ▸ List.mem_cons_self) hc)
        · exact List.mem_cons_of_mem d (ih (hsplit ▸ List.mem_cons_of_mem first h) hc)

/-- The components of a text have no other characters than the text. -/
theorem noNul_ofText {text : String} (h : '\x00' ∉ text.toList) :
    ∀ part ∈ (ofText text).parts, '\x00' ∉ part.toList := by
  intro part hpart hnul
  have hruns : part ∈ runsOf text := List.mem_of_mem_filter hpart
  obtain ⟨run, hrun, rfl⟩ := List.mem_map.mp hruns
  rw [String.toList_ofList] at hnul
  exact h (mem_of_mem_splitSlashes hrun hnul)

end Path

namespace PathPolicy

variable {α : Type} {fs : FileSystem α} {policy : PathPolicy} {p : Path} {base? : Option Location}
  {place : Location}

/-! ## Targets -/

/-- The place that a path leads to, as the policy takes it, and the place of the root, if there is
one. Without a root only absolute paths have a target; with a root relative paths start there. -/
inductive Targets (policy : PathPolicy) (fs : FileSystem α) (p : Path) :
    Option Location → Location → Prop where
  | free {n : Nat} {place : Location} (hroot : policy.root = none) (habsolute : p.isAbsolute)
      (h : FollowsTo fs n [] p.parts place) : Targets policy fs p none place
  | rooted {m n : Nat} {root : Path} {base place : Location} (hroot : policy.root = some root)
      (hbase : FollowsTo fs m [] root.parts base)
      (h : FollowsTo fs n (if p.isAbsolute then [] else base) p.parts place) :
      Targets policy fs p (some base) place

/-- A denied pattern matches the path of the place. -/
def Denies (policy : PathPolicy) (place : Location) : Prop :=
  ∃ pattern ∈ policy.denied, (Path.absolute place).matches? pattern = some true

instance (policy : PathPolicy) (place : Location) : Decidable (policy.Denies place) :=
  inferInstanceAs (Decidable (∃ pattern ∈ policy.denied, _))

/-- What the patterns say of a place. -/
def judgement (policy : PathPolicy) (place : Location) : Except PolicyError Path :=
  if policy.Denies place then .error (.denied (Path.absolute place)) else .ok (Path.absolute place)

/-- The answer to a path with this target. -/
def verdict (policy : PathPolicy) (base? : Option Location) (place : Location) :
    Except PolicyError Path :=
  match base? with
  | none => policy.judgement place
  | some base =>
    if base <+: place then policy.judgement place
    else .error (.outsideRoot (Path.absolute place) (Path.absolute base))

theorem judgement_ok_iff {resolved : Path} :
    policy.judgement place = .ok resolved ↔
      resolved = Path.absolute place ∧ ¬ policy.Denies place := by
  unfold judgement
  by_cases hdenies : policy.Denies place <;> simp [hdenies, eq_comm]

theorem verdict_ok_iff {resolved : Path} :
    policy.verdict base? place = .ok resolved ↔
      resolved = Path.absolute place ∧ (∀ base, base? = some base → base <+: place) ∧
        ¬ policy.Denies place := by
  unfold verdict
  cases base? with
  | none => simp [judgement_ok_iff]
  | some base => by_cases hbase : base <+: place <;> simp [judgement_ok_iff, hbase]

theorem Targets.isEnd (h : Targets policy fs p base? place) : IsEnd fs place := by
  cases h with
  | free _ _ h => exact h.isEnd (IsEnd.root fs)
  | rooted _ hbase h =>
    refine h.isEnd ?_
    split
    · exact IsEnd.root fs
    · exact hbase.isEnd (IsEnd.root fs)

/-- The target of a path is the target of its own path. -/
theorem Targets.of_target (h : Targets policy fs p base? place) :
    Targets policy fs (Path.absolute place) base? place := by
  have hself := h.isEnd.followsTo
  cases h with
  | free hroot _ _ => exact .free hroot rfl hself
  | rooted hroot hbase _ => exact .rooted hroot hbase hself

/-- All paths with one target have the same place of the root. -/
theorem Targets.base_unique {other : Path} {other? : Option Location} {there : Location}
    (h : Targets policy fs p base? place) (h' : Targets policy fs other other? there) :
    base? = other? := by
  cases h with
  | free hroot _ _ =>
    cases h' with
    | free _ _ _ => rfl
    | rooted hother _ _ => rw [hroot] at hother; cases hother
  | rooted hroot hbase _ =>
    cases h' with
    | free hother _ _ => rw [hroot] at hother; cases hother
    | rooted hother hbase' _ =>
      obtain rfl := Option.some.inj (hroot.symm.trans hother)
      rw [(hbase.unique hbase').2]

/-- A relative path has the target of its full form. -/
theorem Targets.append {root : Path} (hroot : policy.root = some root) (habsolute : root.isAbsolute)
    (hrelative : p.isAbsolute = false) (h : Targets policy fs p base? place) :
    Targets policy fs (root.append p) base? place := by
  cases h with
  | free hnone _ _ => rw [hroot] at hnone; cases hnone
  | @rooted m n _ base _ hother hbase h =>
    obtain rfl := Option.some.inj (hroot.symm.trans hother)
    rw [hrelative] at h
    have hwhole : FollowsTo fs (m + n) (if (root.append p).isAbsolute then [] else base)
        (root.append p).parts place := by
      rw [if_pos (show (root.append p).isAbsolute = true from habsolute)]
      exact hbase.append h
    exact .rooted hroot hbase hwhole

/-- Without loops every path without the character NUL has a target. -/
theorem exists_targets (hloops : LinksEnd fs) (hp : ∀ part ∈ p.parts, '\x00' ∉ part.toList)
    (hfree : policy.root = none → p.isAbsolute)
    (hroot : ∀ root, policy.root = some root → ∀ part ∈ root.parts, '\x00' ∉ part.toList) :
    ∃ base? place, Targets policy fs p base? place := by
  cases hpolicy : policy.root with
  | none =>
    obtain ⟨n, place, h⟩ := hloops.exists_followsTo hp []
    exact ⟨none, place, .free hpolicy (hfree hpolicy) h⟩
  | some root =>
    obtain ⟨m, base, hbase⟩ := hloops.exists_followsTo (hroot root hpolicy) []
    obtain ⟨n, place, h⟩ := hloops.exists_followsTo hp (if p.isAbsolute then [] else base)
    exact ⟨some base, place, .rooted hpolicy hbase h⟩

/-! ## The check of a path -/

/-- Patterns with components are tried one after the other. -/
theorem deniedBy_eq {patterns : List String}
    (hpatterns : ∀ pattern ∈ patterns, (Path.ofText pattern).components ≠ []) (paths : List Path) :
    deniedBy paths patterns = .ok (patterns.any fun pattern =>
      paths.any fun p => p.matches? pattern = some true) := by
  induction patterns with
  | nil => rfl
  | cons pattern rest ih =>
    obtain ⟨hpattern, hrest⟩ := List.forall_mem_cons.mp hpatterns
    have hmatch : (fun p : Path => p.matches? pattern) = fun p =>
        pure (decide (p.matches? pattern = some true)) := by
      funext p
      obtain ⟨b, hb⟩ := Option.isSome_iff_exists.mp (Path.isSome_matches? hpattern p)
      cases b <;> simp [hb]
    rw [deniedBy, hmatch, List.mapM_pure, ih hrest, List.any_cons]
    simp only [Option.pure_def, List.any_map, Function.comp_def, id_eq]
    cases paths.any fun p => decide (p.matches? pattern = some true) <;> rfl

/-- Only the whole path of a place matters for what is denied, not its part below the root. -/
theorem deniedBy_target
    (hpatterns : ∀ pattern ∈ policy.denied, (Path.ofText pattern).components ≠ [])
    {paths : List Path} (hpaths : ∀ pattern, (∃ p ∈ paths, p.matches? pattern = some true) ↔
      (Path.absolute place).matches? pattern = some true) :
    deniedBy paths policy.denied = .ok (decide (policy.Denies place)) := by
  rw [deniedBy_eq hpatterns]
  refine congrArg Except.ok (Bool.eq_iff_iff.mpr ?_)
  simp only [List.any_eq_true, decide_eq_true_eq, hpaths]
  rfl

/-- The check of a path without a root. -/
theorem allow_of_no_root (hroot : policy.root = none) (habsolute : p.isAbsolute) :
    policy.allow fs p =
      match fs.resolve p with
      | .error e => .error (.unresolvable e)
      | .ok resolved =>
        match deniedBy [resolved] policy.denied with
        | .error e => .error e
        | .ok true => .error (.denied resolved)
        | .ok false => .ok resolved := by
  have hresolved : policy.resolvedRoot fs = .ok none := by rw [resolvedRoot, hroot]
  unfold allow
  rw [hresolved]
  simp only [bind, Except.bind, pure, Except.pure, habsolute, if_true]
  cases fs.resolve p with
  | error e => rfl
  | ok resolved =>
    simp only [Except.mapError]
    cases deniedBy [resolved] policy.denied with
    | error e => rfl
    | ok isDenied => cases isDenied <;> rfl

/-- The answer of a policy to a path with a target. -/
theorem allow_of_targets
    (hpatterns : ∀ pattern ∈ policy.denied, (Path.ofText pattern).components ≠ [])
    (h : Targets policy fs p base? place) : policy.allow fs p = policy.verdict base? place := by
  cases h with
  | free hroot habsolute h =>
    have hdenied : deniedBy [Path.absolute place] policy.denied =
        .ok (decide (policy.Denies place)) := deniedBy_target hpatterns (by simp)
    rw [allow_of_no_root hroot habsolute, h.resolve_eq]
    simp only [hdenied, verdict, judgement]
    by_cases hdenies : policy.Denies place <;> simp [hdenies]
  | @rooted m n root base _ hroot hbase h =>
    have hresolved : policy.resolvedRoot fs = .ok (some (Path.absolute base)) := by
      rw [resolvedRoot_of_root hroot, hbase.resolve_eq]
    have hrequested :
        fs.resolve (requested (Path.absolute base) p) = .ok (Path.absolute place) := by
      unfold requested
      by_cases habsolute : p.isAbsolute
      · rw [if_pos habsolute] at h ⊢
        exact h.resolve_eq
      · rw [if_neg habsolute] at h ⊢
        have hself := (hbase.isEnd (IsEnd.root fs)).followsTo
        exact FollowsTo.resolve_eq (p := (Path.absolute base).append p) (hself.append h)
    rw [allow_of_resolvedRoot hresolved, hrequested]
    simp only [verdict, judgement]
    by_cases hwithin : base <+: place
    · have hbelow : (Path.absolute base).below? (Path.absolute place) =
          some (place.drop base.length) := if_pos ⟨rfl, hwithin⟩
      have hdenied : deniedBy [Path.absolute place, ⟨.here, place.drop base.length⟩] policy.denied =
          .ok (decide (policy.Denies place)) := by
        refine deniedBy_target hpatterns fun pattern => ?_
        simpa using Path.matches?_of_below hbelow
      simp only [hbelow, hdenied, if_pos hwithin]
      by_cases hdenies : policy.Denies place <;> simp [hdenies]
    · have hbelow : (Path.absolute base).below? (Path.absolute place) = none :=
        if_neg fun hboth => hwithin hboth.2
      simp only [hbelow, if_neg hwithin]

/-- A policy whose root cannot be resolved answers nothing else. -/
theorem allow_of_root_error {root : Path} {e : ResolveError} (hroot : policy.root = some root)
    (h : fs.resolve root = .error e) (p : Path) : policy.allow fs p = .error (.unresolvable e) := by
  unfold allow
  rw [resolvedRoot_of_root hroot, h]
  rfl

/-- What a policy allows has a target. -/
theorem exists_targets_of_allow (hloops : LinksEnd fs)
    (hp : ∀ part ∈ p.parts, '\x00' ∉ part.toList) {resolved : Path}
    (h : policy.allow fs p = .ok resolved) : ∃ base? place, Targets policy fs p base? place := by
  refine exists_targets hloops hp (fun hroot => ?_) fun root hroot part hpart hnul => ?_
  · by_contra hrelative
    have hrejected : policy.allow fs p = .error (.relative p) := by
      unfold allow
      rw [resolvedRoot, hroot]
      simp only [if_neg hrelative]
      rfl
    rw [hrejected] at h
    cases h
  · rw [allow_of_root_error hroot (hloops.resolve_error ⟨part, hpart, hnul⟩)] at h
    cases h

/-- What a policy answers with is the path of a place, without dots, and it allows that path, too. -/
theorem resolved_of_allow
    (hpatterns : ∀ pattern ∈ policy.denied, (Path.ofText pattern).components ≠ [])
    (hloops : LinksEnd fs) (hp : ∀ part ∈ p.parts, '\x00' ∉ part.toList) {resolved : Path}
    (h : policy.allow fs p = .ok resolved) :
    resolved.isAbsolute ∧ (∀ part ∈ resolved.parts, part ≠ "." ∧ part ≠ "..") ∧
      policy.allow fs resolved = .ok resolved := by
  obtain ⟨base?, place, htarget⟩ := exists_targets_of_allow hloops hp h
  have hverdict := h
  rw [allow_of_targets hpatterns htarget] at hverdict
  obtain ⟨rfl, -, -⟩ := verdict_ok_iff.mp hverdict
  refine ⟨rfl, fun part hpart => (htarget.isEnd.settled.plain part hpart).2, ?_⟩
  rw [allow_of_targets hpatterns htarget.of_target, hverdict]

/-- A policy answers to a relative path as to its full form, also if the root has no place. -/
theorem allow_append
    (hpatterns : ∀ pattern ∈ policy.denied, (Path.ofText pattern).components ≠ [])
    (hloops : LinksEnd fs) (hp : ∀ part ∈ p.parts, '\x00' ∉ part.toList) {root : Path}
    (hroot : policy.root = some root) (habsolute : root.isAbsolute)
    (hrelative : p.isAbsolute = false) : policy.allow fs (root.append p) = policy.allow fs p := by
  by_cases hnul : ∃ part ∈ root.parts, '\x00' ∈ part.toList
  · have herror := hloops.resolve_error hnul
    rw [allow_of_root_error hroot herror, allow_of_root_error hroot herror]
  · have hclean : ∀ other, policy.root = some other →
        ∀ part ∈ other.parts, '\x00' ∉ part.toList := by
      intro other hother part hpart hpartNul
      obtain rfl := Option.some.inj (hroot.symm.trans hother)
      exact hnul ⟨part, hpart, hpartNul⟩
    obtain ⟨base?, place, htarget⟩ :=
      exists_targets hloops hp (fun hnone => by simp [hroot] at hnone) hclean
    have hfull := htarget.append hroot habsolute hrelative
    rw [allow_of_targets hpatterns hfull, allow_of_targets hpatterns htarget]

/-- In a file system without loops of links, a policy allows a path if and only if its target is the
root or below it, where there is a root, and no denied pattern matches the target. The answer is the
absolute path of the target, without dots, and is answered with itself. A relative path is treated
like its full form, and so are all paths with one target. -/
theorem allow_iff_target_permitted (policy : PathPolicy) (fs : FileSystem α) (text : String)
    (hroot : ∀ root, policy.root = some root → root.isAbsolute)
    (hpatterns : ∀ pattern ∈ policy.denied, (Path.ofText pattern).components ≠ [])
    (hnul : '\x00' ∉ text.toList) (hloops : LinksEnd fs) :
    let p := Path.ofText text
    (∀ resolved, policy.allow fs p = .ok resolved ↔
      ∃ base? place, Targets policy fs p base? place ∧ resolved = Path.absolute place ∧
        (∀ base, base? = some base → base <+: place) ∧
        ∀ pattern ∈ policy.denied, resolved.matches? pattern ≠ some true) ∧
    (∀ resolved, policy.allow fs p = .ok resolved →
      resolved.isAbsolute ∧ (∀ part ∈ resolved.parts, part ≠ "." ∧ part ≠ "..") ∧
        policy.allow fs resolved = .ok resolved) ∧
    (∀ root, policy.root = some root → p.isAbsolute = false →
      policy.allow fs (root.append p) = policy.allow fs p) ∧
    (∀ other base? other? place, Targets policy fs p base? place →
      Targets policy fs other other? place → policy.allow fs other = policy.allow fs p) ∧
    ((policy.root = none → p.isAbsolute) →
      (∀ root, policy.root = some root → ∀ part ∈ root.parts, '\x00' ∉ part.toList) →
      ∃ base? place, Targets policy fs p base? place) := by
  intro p
  have hp : ∀ part ∈ p.parts, '\x00' ∉ part.toList := Path.noNul_ofText hnul
  refine ⟨fun resolved => ⟨fun h => ?_, ?_⟩, fun resolved h => ?_, fun root hpolicy hrelative => ?_,
    fun other base? other? place h h' => ?_, exists_targets hloops hp⟩
  · obtain ⟨base?, place, htarget⟩ := exists_targets_of_allow hloops hp h
    rw [allow_of_targets hpatterns htarget, verdict_ok_iff] at h
    obtain ⟨rfl, hwithin, hdenies⟩ := h
    exact ⟨base?, place, htarget, rfl, hwithin, fun pattern hpattern hmatch =>
      hdenies ⟨pattern, hpattern, hmatch⟩⟩
  · rintro ⟨base?, place, htarget, rfl, hwithin, haccepts⟩
    rw [allow_of_targets hpatterns htarget, verdict_ok_iff]
    exact ⟨rfl, hwithin, fun ⟨pattern, hpattern, hmatch⟩ => haccepts pattern hpattern hmatch⟩
  · exact resolved_of_allow hpatterns hloops hp h
  · exact allow_append hpatterns hloops hp hpolicy (hroot root hpolicy) hrelative
  · rw [allow_of_targets hpatterns h, allow_of_targets hpatterns h', h.base_unique h']

/-! ## A link within the root -/

/-- A directory with a link in it that leads back to the root of the policy. -/
def linkedFiles : FileSystem Unit :=
  ⟨[(["ws"], .directory), (["ws", "in"], .directory), (["ws", "in", "home"], .link "../../ws")]⟩

/-- A policy with a root that denies temporary files. -/
def rootedPolicy : PathPolicy := ⟨some (Path.ofText "/ws"), ["*.tmp"]⟩

theorem followsTo_home : FollowsTo linkedFiles 0 (linkStart ["ws", "in"] "../../ws")
    (Path.runsOf "../../ws") ["ws"] := by
  have hstart : linkStart ["ws", "in"] "../../ws" = ["ws", "in"] := by decide +kernel
  have hruns : Path.runsOf "../../ws" = ["..", "..", "ws"] := by decide +kernel
  rw [hstart, hruns]
  exact .up (.up (.enter (by decide) (by decide +kernel) (.nil _)))

theorem linksEnd_linkedFiles : LinksEnd linkedFiles := by
  intro place run target hlink
  have hplace : place ++ [run] = ["ws", "in"] ++ ["home"] ∧ target = "../../ws" := by
    rw [linkAt_eq_some] at hlink
    simp only [linkedFiles, entryAt, find] at hlink
    split_ifs at hlink with hroot hws hin hhome
    all_goals cases hlink
    exact ⟨hhome.symm, rfl⟩
  obtain ⟨hsame, rfl⟩ := hplace
  obtain ⟨rfl, -⟩ := List.append_inj' hsame rfl
  exact ⟨0, ["ws"], followsTo_home⟩

/-- A path through the link stays within the root, and its full form does, too. -/
theorem path_through_link_is_allowed :
    let p := Path.ofText "in/home/./in//../book.xlsx"
    let resolved := Path.absolute ["ws", "book.xlsx"]
    rootedPolicy.allow linkedFiles p = .ok resolved ∧
      rootedPolicy.allow linkedFiles resolved = .ok resolved ∧
      rootedPolicy.allow linkedFiles ((Path.ofText "/ws").append p) = .ok resolved := by
  intro p resolved
  obtain ⟨hiff, hself, hfull, -, -⟩ := allow_iff_target_permitted rootedPolicy linkedFiles
    "in/home/./in//../book.xlsx" (fun root hroot => by cases hroot; decide +kernel)
    (by decide +kernel) (by decide +kernel) linksEnd_linkedFiles
  have hrunsRoot : (Path.ofText "/ws").parts = ["ws"] := by decide +kernel
  have hroot : FollowsTo linkedFiles 0 [] (Path.ofText "/ws").parts ["ws"] := by
    rw [hrunsRoot]
    exact .enter (by decide) (by decide +kernel) (.nil _)
  have hruns : p.parts = ["in", "home", "in", "..", "book.xlsx"] := by decide +kernel
  have hrelative : p.isAbsolute = false := by decide +kernel
  have hpath : FollowsTo linkedFiles 1 (if p.isAbsolute then [] else ["ws"]) p.parts
      ["ws", "book.xlsx"] := by
    rw [hruns, hrelative]
    refine .enter (by decide) (by decide +kernel) ?_
    refine .link (m := 0) (n := 0) (by decide) (by decide +kernel) followsTo_home ?_
    refine .enter (by decide) (by decide +kernel) (.up ?_)
    exact .enter (by decide) (by decide +kernel) (.nil _)
  have hallowed : rootedPolicy.allow linkedFiles p = .ok resolved := by
    refine (hiff resolved).mpr
      ⟨some ["ws"], ["ws", "book.xlsx"], .rooted rfl hroot hpath, rfl, ?_, ?_⟩
    · rintro base ⟨⟩
      decide
    · decide +kernel
  refine ⟨hallowed, (hself resolved hallowed).2.2, ?_⟩
  rw [hfull (Path.ofText "/ws") rfl hrelative]
  exact hallowed

end PathPolicy

end WorkbookTools
