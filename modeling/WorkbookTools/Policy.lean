import WorkbookTools.FileSystem.Resolve
import WorkbookTools.Path.Match

/-!
# Path policies

A policy confines paths to a root directory, if it has one, and denies those that match one of its
glob patterns. With a root, relative paths are taken from it; without one, paths have to be
absolute. A pattern is tried on the resolved path and, with a root, on its part below the root.
-/

namespace WorkbookTools

/-- The root and the denied patterns. -/
structure PathPolicy where
  root : Option Path
  denied : List String
  deriving DecidableEq, Repr

/-- Why a path is not allowed. -/
inductive PolicyError where
  | unresolvable (e : ResolveError)
  /-- The path is relative and there is no root. -/
  | relative (path : Path)
  | outsideRoot (resolved root : Path)
  | denied (resolved : Path)
  /-- A denied pattern has no components. -/
  | emptyPattern
  deriving DecidableEq, Repr

namespace Path

/-- The components of a path below a directory, if it is that directory or below it. -/
def below? (directory p : Path) : Option (List String) :=
  if directory.anchor = p.anchor ∧ directory.parts <+: p.parts then
    some (p.parts.drop directory.parts.length)
  else none

end Path

namespace PathPolicy

variable {α : Type}

def resolvedRoot (policy : PathPolicy) (fs : FileSystem α) : Except PolicyError (Option Path) :=
  match policy.root with
  | none => .ok none
  | some root =>
    match fs.resolve root with
    | .ok p => .ok (some p)
    | .error e => .error (.unresolvable e)

/-- The first pattern that matches one of the paths decides; a pattern before it that has no
components is an error. -/
def deniedBy (paths : List Path) : List String → Except PolicyError Bool
  | [] => .ok false
  | pattern :: patterns =>
    match paths.mapM (·.matches? pattern) with
    | none => .error .emptyPattern
    | some results => if results.any id then .ok true else deniedBy paths patterns

def allow (policy : PathPolicy) (fs : FileSystem α) (p : Path) : Except PolicyError Path := do
  let root? ← policy.resolvedRoot fs
  let candidate ← match root? with
    | none => if p.isAbsolute then pure p else throw (.relative p)
    | some root => pure (if p.isAbsolute then p else root.append p)
  let resolved ← (fs.resolve candidate).mapError .unresolvable
  let paths ← match root? with
    | none => pure [resolved]
    | some root =>
      match root.below? resolved with
      | none => throw (.outsideRoot resolved root)
      | some parts => pure [resolved, ⟨.here, parts⟩]
  if ← deniedBy paths policy.denied then throw (.denied resolved)
  pure resolved

def resolvePath (policy : Option PathPolicy) (fs : FileSystem α) (p : Path) :
    Except PolicyError Path :=
  match policy with
  | none => (fs.resolve p).mapError .unresolvable
  | some policy => policy.allow fs p

end PathPolicy

end WorkbookTools
