import Mathlib.Data.List.Infix
import WorkbookTools.Path.Match
import WorkbookTools.Proofs.Path.Glob

/-!
# Which paths a pattern of several components matches

A relative pattern is laid against the last components of a path. So two stars behind a directory
take exactly one component: they stand for what is directly in the directory, and not for what is
further down, unless the names of the directory come once more right above it. Two stars in front take
one component, too, but leave open what is before it.

* `ofText_intercalate`: reading a row of components again.
* `matches?_belowPattern`: what a directory with two stars matches.
* `matches?_anywherePattern`: what two stars and a pattern of a name match.
-/

namespace WorkbookTools.Path

variable {p : Path} {names before directory rest : List String}

/-! ## Rows of components -/

/-- The text stands for one component of a path. -/
def IsComponent (text : String) : Prop := text ≠ "" ∧ text ≠ "." ∧ '/' ∉ text.toList

instance (text : String) : Decidable (IsComponent text) :=
  inferInstanceAs (Decidable (_ ∧ _ ∧ _))

theorem splitSlashes_of_notMem {run : List Char} (h : '/' ∉ run) : splitSlashes run = [run] := by
  induction run with
  | nil => rfl
  | cons c rest ih =>
    obtain ⟨hc, hrest⟩ := not_or.mp (mt List.mem_cons.mpr h)
    rw [splitSlashes, if_neg (Ne.symm hc), ih hrest]

theorem splitSlashes_append {run : List Char} (h : '/' ∉ run) (s : List Char) :
    splitSlashes (run ++ '/' :: s) = run :: splitSlashes s := by
  induction run with
  | nil => rfl
  | cons c rest ih =>
    obtain ⟨hc, hrest⟩ := not_or.mp (mt List.mem_cons.mpr h)
    rw [List.cons_append, splitSlashes, if_neg (Ne.symm hc), ih hrest]

theorem runsOf_intercalate (hsome : names ≠ []) (h : ∀ name ∈ names, '/' ∉ name.toList) :
    runsOf (String.intercalate "/" names) = names := by
  induction names with
  | nil => exact absurd rfl hsome
  | cons first others ih =>
    obtain ⟨hfirst, hothers⟩ := List.forall_mem_cons.mp h
    cases others with
    | nil =>
      rw [String.intercalate_singleton, runsOf, splitSlashes_of_notMem hfirst, List.map_singleton,
        String.ofList_toList]
    | cons second others =>
      have hslash : "/".toList = ['/'] := rfl
      have hruns := ih (List.cons_ne_nil _ _) hothers
      rw [runsOf] at hruns
      rw [String.intercalate_cons_cons, runsOf, String.toList_append, String.toList_append, hslash,
        List.append_assoc, List.singleton_append, splitSlashes_append hfirst, List.map_cons, hruns,
        String.ofList_toList]

/-- A text whose first component is not empty starts at the current directory. -/
theorem anchorOf_intercalate {first : String} (h : IsComponent first) (others : List String) :
    anchorOf (String.intercalate "/" (first :: others)) = .here := by
  obtain ⟨hempty, -, hslash⟩ := h
  obtain ⟨more, htext⟩ : ∃ more : List Char,
      (String.intercalate "/" (first :: others)).toList = first.toList ++ more := by
    cases others with
    | nil => exact ⟨[], by rw [String.intercalate_singleton, List.append_nil]⟩
    | cons second others =>
      rw [String.intercalate_cons_cons, String.toList_append, String.toList_append,
        List.append_assoc]
      exact ⟨_, rfl⟩
  cases hfirst : first.toList with
  | nil => exact absurd (String.toList_eq_nil_iff.mp hfirst) hempty
  | cons c rest =>
    have hc : c ≠ '/' := fun hc => hslash (hfirst ▸ hc ▸ List.mem_cons_self)
    unfold anchorOf
    rw [htext, hfirst]
    simp only [List.cons_append]
    split
    · next heq => exact absurd (List.cons.inj heq).1 hc
    · next heq => exact absurd (List.cons.inj heq).1 hc
    · next heq => exact absurd (List.cons.inj heq).1 hc
    · rfl

/-- Components that are written with slashes between them are read again. -/
theorem ofText_intercalate (hsome : names ≠ []) (h : ∀ name ∈ names, IsComponent name) :
    ofText (String.intercalate "/" names) = ⟨.here, names⟩ := by
  have hparts : componentsOf (String.intercalate "/" names) = names := by
    rw [componentsOf, runsOf_intercalate hsome fun name hname => (h name hname).2.2,
      List.filter_eq_self]
    intro name hname
    exact decide_eq_true ⟨(h name hname).1, (h name hname).2.1⟩
  cases names with
  | nil => exact absurd rfl hsome
  | cons first others =>
    rw [ofText, hparts, anchorOf_intercalate (h first List.mem_cons_self)]

/-! ## Relative patterns -/

theorem matches?_intercalate (hsome : names ≠ []) (h : ∀ name ∈ names, IsComponent name) :
    p.matches? (String.intercalate "/" names) =
      some (decide (names.length ≤ p.components.length ∧
        matchPairs names.reverse p.components.reverse = true)) := by
  unfold matches?
  rw [ofText_intercalate hsome h]
  simp [components, isAbsolute, hsome]

/-- Components without special characters match only themselves. -/
theorem matchPairs_plain {patterns parts : List String} (h : ∀ name ∈ patterns, Glob.IsPlain name)
    (hlength : patterns.length ≤ parts.length) :
    matchPairs patterns parts = true ↔ patterns <+: parts := by
  induction patterns generalizing parts with
  | nil => exact iff_of_true rfl List.nil_prefix
  | cons pattern patterns ih =>
    obtain ⟨hpattern, hpatterns⟩ := List.forall_mem_cons.mp h
    cases parts with
    | nil => cases hlength
    | cons part parts =>
      rw [matchPairs, Bool.and_eq_true, Glob.matchText_plain hpattern,
        ih hpatterns (Nat.le_of_succ_le_succ hlength), List.cons_prefix_cons, eq_comm]

/-! ## Two stars behind a directory -/

/-- The components of a directory, and two stars. -/
def belowPattern (directory : List String) : String :=
  String.intercalate "/" (directory ++ ["**"])

/-- The names of a directory, which stand only for themselves. -/
def IsPlainDirectory (directory : List String) : Prop :=
  ∀ name ∈ directory, IsComponent name ∧ Glob.IsPlain name

instance (directory : List String) : Decidable (IsPlainDirectory directory) :=
  List.decidableBAll _ _

/-- A path some way below a directory matches the directory with two stars just if the names of the
directory come right above the last component. -/
theorem matches?_belowPattern (hdirectory : IsPlainDirectory directory) (hrest : rest ≠ [])
    (hp : p.components = before ++ (directory ++ rest)) :
    p.matches? (belowPattern directory) =
      some (decide (directory <:+ directory ++ rest.dropLast)) := by
  have hcomponents : ∀ name ∈ directory ++ ["**"], IsComponent name := by
    intro name hname
    rcases List.mem_append.mp hname with hname | hstars
    · exact (hdirectory name hname).1
    · rw [List.mem_singleton.mp hstars]
      decide
  have hplain : ∀ name ∈ directory.reverse, Glob.IsPlain name := fun name hname =>
    (hdirectory name (List.mem_reverse.mp hname)).2
  obtain ⟨above, last, rfl⟩ := (List.eq_nil_or_concat rest).resolve_left hrest
  have hreverse : p.components.reverse = last :: (before ++ (directory ++ above)).reverse := by
    rw [hp, List.concat_eq_append, ← List.append_assoc, ← List.append_assoc, List.reverse_concat,
      List.append_assoc]
  have hlength : directory.reverse.length ≤ (before ++ (directory ++ above)).reverse.length := by
    simp only [List.length_reverse, List.length_append]
    omega
  have hlong : (directory ++ ["**"]).length ≤ p.components.length := by
    have hlonger := congrArg List.length hreverse
    rw [List.length_reverse, List.length_cons] at hlonger
    rw [List.length_reverse] at hlength
    rw [List.length_append, List.length_singleton, hlonger]
    exact Nat.succ_le_succ hlength
  have hsuffix : directory <:+ before ++ (directory ++ above) ↔ directory <:+ directory ++ above := by
    refine ⟨fun h => ?_, fun h => h.trans (List.suffix_append _ _)⟩
    refine List.suffix_of_suffix_length_le h (List.suffix_append _ _) ?_
    rw [List.length_append]
    omega
  have hmatch : matchPairs (directory ++ ["**"]).reverse p.components.reverse = true ↔
      directory <:+ directory ++ above := by
    rw [List.reverse_concat, hreverse, matchPairs, Glob.matchText_stars, Bool.true_and,
      matchPairs_plain hplain hlength, List.reverse_prefix, hsuffix]
  rw [belowPattern, matches?_intercalate (by simp) hcomponents, List.concat_eq_append,
    List.dropLast_concat]
  refine congrArg some (decide_eq_decide.mpr ?_)
  rw [hmatch]
  exact and_iff_right hlong

/-! ## Two stars in front of a name -/

/-- Two stars, and a pattern of a name. -/
def anywherePattern (pattern : String) : String := "**/" ++ pattern

/-- A path with at least two components matches if its last one matches the pattern. -/
theorem matches?_anywherePattern {pattern above name : String} (hpattern : IsComponent pattern)
    (hp : p.components = before ++ [above, name]) :
    p.matches? (anywherePattern pattern) = some (Glob.matchText pattern name) := by
  have htext : anywherePattern pattern = String.intercalate "/" ["**", pattern] := by
    rw [String.intercalate_cons_cons, String.intercalate_singleton]
    rfl
  have hcomponents : ∀ name ∈ ["**", pattern], IsComponent name := by
    have hstars : IsComponent "**" := by decide
    simp [hstars, hpattern]
  have hreverse : p.components.reverse = name :: above :: before.reverse := by
    rw [hp, List.reverse_append]
    rfl
  have hlength : ["**", pattern].length ≤ p.components.length := by
    rw [hp, List.length_append]
    exact Nat.le_add_left _ _
  have hmatch : matchPairs ["**", pattern].reverse p.components.reverse =
      Glob.matchText pattern name := by
    have hnone : matchPairs [] before.reverse = true := rfl
    have hrow : ["**", pattern].reverse = [pattern, "**"] := rfl
    rw [hreverse, hrow, matchPairs, matchPairs, Glob.matchText_stars, hnone, Bool.and_true,
      Bool.and_true]
  rw [htext, matches?_intercalate (List.cons_ne_nil _ _) hcomponents, hmatch]
  simp only [hlength, true_and, Bool.decide_eq_true]

end WorkbookTools.Path
