import WorkbookTools.Path
import WorkbookTools.Path.Glob

/-!
# Glob patterns of paths

A pattern is read as a path whose components are patterns. A relative pattern is laid against the
last components of a path, of which the anchor of an absolute path counts as the first. An absolute
pattern has to match the whole path.
-/

namespace WorkbookTools.Path

/-- Patterns and components match pairwise, as far as there are both. -/
def matchPairs : List String → List String → Bool
  | pattern :: patterns, part :: parts => Glob.matchText pattern part && matchPairs patterns parts
  | _, _ => true

/-- Whether the path matches a pattern; `none` if the pattern has no components. -/
def matches? (p : Path) (pattern : String) : Option Bool :=
  let q := ofText pattern
  if q.components = [] then none
  else if q.isAbsolute then
    some <| q.anchor = p.anchor ∧ q.components.length = p.components.length ∧
      matchPairs q.parts.reverse p.components.reverse
  else
    some <| q.parts.length ≤ p.components.length ∧
      matchPairs q.parts.reverse p.components.reverse

end WorkbookTools.Path
