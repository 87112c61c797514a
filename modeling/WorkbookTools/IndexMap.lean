import WorkbookTools.IndexMap.Pairs

/-!
# Ordered maps

A map from natural numbers keeps its pairs on pages of fixed length, so that a map with many keys is
searched quickly. The pages and the pairs on each page are in the order of the keys. `get?_insert`
says what an insertion changes.
-/

namespace WorkbookTools

/-- A finite map from natural numbers, its pairs on pages. -/
structure IndexMap (α : Type) where
  pages : OrderedPairs (OrderedPairs α)
  deriving DecidableEq

namespace IndexMap

variable {α β : Type}

/-- The number of keys that share a page. -/
def pageLength : Nat := 512

/-- The map without keys. -/
def empty : IndexMap α := ⟨OrderedPairs.empty⟩

/-- The value of a key. -/
def get? (m : IndexMap α) (k : Nat) : Option α :=
  (m.pages.get? (k / pageLength)).bind (·.get? (k % pageLength))

/-- Sets the value of a key. -/
def insert (m : IndexMap α) (k : Nat) (v : α) : IndexMap α :=
  let page := (m.pages.get? (k / pageLength)).getD OrderedPairs.empty
  ⟨m.pages.insert (k / pageLength) (page.insert (k % pageLength) v)⟩

@[simp] theorem get?_empty (k : Nat) : (empty : IndexMap α).get? k = none := rfl

/-- Two keys are equal if they have the same page and the same place on it. -/
theorem eq_iff_page {k j : Nat} :
    k = j ↔ k / pageLength = j / pageLength ∧ k % pageLength = j % pageLength := by
  refine ⟨fun h => by simp [h], fun ⟨hpage, hplace⟩ => ?_⟩
  rw [← Nat.div_add_mod k pageLength, ← Nat.div_add_mod j pageLength, hpage, hplace]

/-- An insertion sets its key and leaves the others alone. -/
@[simp] theorem get?_insert (m : IndexMap α) (k j : Nat) (v : α) :
    (m.insert k v).get? j = if k = j then some v else m.get? j := by
  simp only [get?, insert, OrderedPairs.get?_insert, eq_iff_page (k := k) (j := j)]
  by_cases hpage : k / pageLength = j / pageLength
  · cases h : m.pages.get? (j / pageLength) <;> simp [hpage, h]
  · simp [hpage]

/-- The pairs in the order of the keys. -/
def toList (m : IndexMap α) : List (Nat × α) :=
  m.pages.toList.flatMap fun (page, pairs) =>
    pairs.toList.map fun (place, v) => (page * pageLength + place, v)

instance [Repr α] : Repr (IndexMap α) := ⟨fun m => reprPrec m.toList⟩

/-- The map with a function applied to its values; the keys of absent results are dropped. -/
def filterMap (f : α → Option β) (m : IndexMap α) : IndexMap β :=
  ⟨m.pages.filterMap fun pairs =>
    let kept := pairs.filterMap f
    if kept.isEmpty then none else some kept⟩

def maxKey? (m : IndexMap α) : Option Nat := m.toList.getLast?.map (·.1)

def minKey? (m : IndexMap α) : Option Nat := m.toList.head?.map (·.1)

/-- There are no keys. -/
def isEmpty (m : IndexMap α) : Bool := m.toList.isEmpty

end IndexMap

end WorkbookTools
