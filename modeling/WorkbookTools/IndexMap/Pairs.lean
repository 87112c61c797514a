/-!
# Ordered pairs

A small map from natural numbers is a list of pairs with strictly increasing keys. `get?_insert`
says what an insertion changes.
-/

namespace WorkbookTools

/-- A finite map from natural numbers, its pairs in the order of the keys. -/
structure OrderedPairs (α : Type) where
  toList : List (Nat × α)
  sorted : toList.Pairwise fun p q => p.1 < q.1

namespace OrderedPairs

variable {α β : Type}

instance [DecidableEq α] : DecidableEq (OrderedPairs α) := fun a b =>
  decidable_of_iff (a.toList = b.toList) <| by cases a; cases b; simp

instance [Repr α] : Repr (OrderedPairs α) := ⟨fun m => reprPrec m.toList⟩

/-- The map without keys. -/
def empty : OrderedPairs α := ⟨[], List.Pairwise.nil⟩

/-- Looks a key up in a list of pairs. -/
def find (k : Nat) : List (Nat × α) → Option α
  | [] => none
  | (key, value) :: rest => if key = k then some value else find k rest

/-- The value of a key. -/
def get? (m : OrderedPairs α) (k : Nat) : Option α := find k m.toList

/-- Puts a pair in its place, replacing the one with the same key. -/
def place (k : Nat) (v : α) : List (Nat × α) → List (Nat × α)
  | [] => [(k, v)]
  | (key, value) :: rest =>
    if k < key then (k, v) :: (key, value) :: rest
    else if k = key then (k, v) :: rest
    else (key, value) :: place k v rest

theorem mem_place {k : Nat} {v : α} {p : Nat × α} {l : List (Nat × α)} (h : p ∈ place k v l) :
    p = (k, v) ∨ p ∈ l := by
  induction l with
  | nil => simpa [place] using h
  | cons q rest ih =>
    obtain ⟨key, value⟩ := q
    simp only [place] at h
    split at h
    · simpa using h
    · split at h
      · rcases List.mem_cons.1 h with h | h
        · exact .inl h
        · exact .inr (List.mem_cons_of_mem _ h)
      · rcases List.mem_cons.1 h with h | h
        · exact .inr (h ▸ List.mem_cons_self)
        · exact (ih h).imp id (List.mem_cons_of_mem _)

theorem pairwise_place {k : Nat} {v : α} {l : List (Nat × α)}
    (h : l.Pairwise fun p q => p.1 < q.1) : (place k v l).Pairwise fun p q => p.1 < q.1 := by
  induction l with
  | nil => simp [place]
  | cons q rest ih =>
    obtain ⟨key, value⟩ := q
    obtain ⟨hhead, htail⟩ := List.pairwise_cons.1 h
    simp only [place]
    split
    · rename_i hlt
      refine List.pairwise_cons.2 ⟨fun p hp => ?_, h⟩
      rcases List.mem_cons.1 hp with rfl | hp
      · exact hlt
      · exact Nat.lt_trans hlt (hhead p hp)
    · split
      · rename_i heq
        subst heq
        exact List.pairwise_cons.2 ⟨hhead, htail⟩
      · rename_i hlt hne
        refine List.pairwise_cons.2 ⟨fun p hp => ?_, ih htail⟩
        rcases mem_place hp with rfl | hp
        · show key < k
          omega
        · exact hhead p hp

/-- Sets the value of a key. -/
def insert (m : OrderedPairs α) (k : Nat) (v : α) : OrderedPairs α :=
  ⟨place k v m.toList, pairwise_place m.sorted⟩

theorem find_place (k j : Nat) (v : α) (l : List (Nat × α)) :
    find j (place k v l) = if k = j then some v else find j l := by
  induction l with
  | nil => simp [place, find]
  | cons q rest ih =>
    obtain ⟨key, value⟩ := q
    simp only [place]
    split
    · simp [find]
    · split
      · rename_i heq
        subst heq
        simp only [find]
        split <;> rfl
      · rename_i hne
        simp only [find, ih]
        by_cases hj : key = j
        · subst hj
          simp [hne]
        · simp [hj]

/-- An insertion sets its key and leaves the others alone. -/
@[simp] theorem get?_insert (m : OrderedPairs α) (k j : Nat) (v : α) :
    (m.insert k v).get? j = if k = j then some v else m.get? j :=
  find_place k j v m.toList

@[simp] theorem get?_empty (k : Nat) : (empty : OrderedPairs α).get? k = none := rfl

/-- The map with a function applied to its values; the keys of absent results are dropped. -/
def filterMap (f : α → Option β) (m : OrderedPairs α) : OrderedPairs β :=
  ⟨m.toList.filterMap fun p => (f p.2).map (p.1, ·), by
    refine List.pairwise_filterMap.2 (m.sorted.imp ?_)
    intro p q hlt b hb c hc
    obtain ⟨_, _, rfl⟩ := Option.map_eq_some_iff.1 hb
    obtain ⟨_, _, rfl⟩ := Option.map_eq_some_iff.1 hc
    exact hlt⟩

/-- There are no keys. -/
def isEmpty (m : OrderedPairs α) : Bool := m.toList.isEmpty

end OrderedPairs

end WorkbookTools
