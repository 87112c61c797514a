import WorkbookTools.IndexMap

/-!
# Functions applied to ordered maps

`IndexMap.get?_filterMap` says what a map holds after a function has been applied to its values. It
rests on the order of the keys: no key occurs twice, so no pair is hidden behind a dropped one.
-/

namespace WorkbookTools

variable {α β : Type}

namespace OrderedPairs

theorem find_eq_none {l : List (Nat × α)} {k : Nat} (h : ∀ p ∈ l, k < p.1) : find k l = none := by
  induction l with
  | nil => rfl
  | cons p rest ih =>
    have hne : p.1 ≠ k := by
      have := h p List.mem_cons_self
      omega
    rw [find, if_neg hne]
    exact ih fun q hq => h q (List.mem_cons_of_mem _ hq)

theorem mem_of_find {l : List (Nat × α)} {k : Nat} {v : α} (h : find k l = some v) :
    (k, v) ∈ l := by
  induction l with
  | nil => cases h
  | cons p rest ih =>
    obtain ⟨key, value⟩ := p
    rw [find] at h
    split at h
    · next hkey =>
      cases h
      rw [hkey]
      exact List.mem_cons_self
    · exact List.mem_cons_of_mem _ (ih h)

@[simp] theorem get?_filterMap (m : OrderedPairs α) (f : α → Option β) (k : Nat) :
    (m.filterMap f).get? k = (m.get? k).bind f := by
  obtain ⟨l, hsorted⟩ := m
  show find k (l.filterMap fun p => (f p.2).map (p.1, ·)) = (find k l).bind f
  induction l with
  | nil => rfl
  | cons p rest ih =>
    obtain ⟨key, value⟩ := p
    obtain ⟨hfirst, hrest⟩ := List.pairwise_cons.mp hsorted
    have htail := ih hrest
    by_cases hkey : key = k
    · subst hkey
      rw [find, if_pos rfl, Option.bind_some]
      cases hf : f value with
      | some b => simp [hf, find]
      | none =>
        have hnone : find key rest = none := find_eq_none hfirst
        rw [hnone] at htail
        simpa [hf] using htail
    · rw [find, if_neg hkey]
      cases hf : f value with
      | some b => simpa [hf, find, hkey] using htail
      | none => simpa [hf] using htail

end OrderedPairs

namespace IndexMap

@[simp] theorem get?_filterMap (m : IndexMap α) (f : α → Option β) (k : Nat) :
    (m.filterMap f).get? k = (m.get? k).bind f := by
  simp only [get?, filterMap, OrderedPairs.get?_filterMap]
  cases hpage : m.pages.get? (k / pageLength) with
  | none => rfl
  | some pairs =>
    simp only [Option.bind_some]
    rw [← OrderedPairs.get?_filterMap]
    split
    · next hempty =>
      have hnil : (pairs.filterMap f).toList = [] := List.isEmpty_iff.mp hempty
      rw [Option.bind_none, OrderedPairs.get?, hnil, OrderedPairs.find]
    · rfl

theorem mem_toList_of_get? {m : IndexMap α} {k : Nat} {v : α} (h : m.get? k = some v) :
    (k, v) ∈ m.toList := by
  obtain ⟨pairs, hpage, hplace⟩ := Option.bind_eq_some_iff.mp h
  refine List.mem_flatMap.mpr ⟨(k / pageLength, pairs), OrderedPairs.mem_of_find hpage, ?_⟩
  refine List.mem_map.mpr ⟨(k % pageLength, v), OrderedPairs.mem_of_find hplace, ?_⟩
  exact Prod.ext (Nat.div_add_mod' k pageLength) rfl

theorem mem_toList_filterMap {m : IndexMap α} {f : α → Option β} {k : Nat} {b : β}
    (h : (k, b) ∈ (m.filterMap f).toList) : ∃ a, (k, a) ∈ m.toList ∧ f a = some b := by
  obtain ⟨⟨page, kept⟩, hpage, hplace⟩ := List.mem_flatMap.mp h
  obtain ⟨⟨other, pairs⟩, hpairs, hkept⟩ := List.mem_filterMap.mp hpage
  obtain ⟨⟨place, v⟩, hv, hkey⟩ := List.mem_map.mp hplace
  obtain ⟨found, hfound, hsame⟩ := Option.map_eq_some_iff.mp hkept
  obtain ⟨rfl, rfl⟩ := Prod.mk.inj hsame
  obtain ⟨rfl, rfl⟩ := Prod.mk.inj hkey
  have hpairs' : found = pairs.filterMap f := by
    simp only at hfound
    split at hfound
    · cases hfound
    · exact (Option.some.inj hfound).symm
  rw [hpairs'] at hv
  obtain ⟨⟨same, a⟩, ha, hf⟩ := List.mem_filterMap.mp hv
  obtain ⟨value, hvalue, hpair⟩ := Option.map_eq_some_iff.mp hf
  obtain ⟨rfl, rfl⟩ := Prod.mk.inj hpair
  exact ⟨a, List.mem_flatMap.mpr ⟨_, hpairs, List.mem_map.mpr ⟨_, ha, rfl⟩⟩, hvalue⟩

theorem mem_toList_insert {m : IndexMap α} {k j : Nat} {v x : α}
    (h : (j, x) ∈ (m.insert k v).toList) : x = v ∨ (j, x) ∈ m.toList := by
  obtain ⟨⟨page, pairs⟩, hpairs, hx⟩ := List.mem_flatMap.mp h
  obtain ⟨⟨place, value⟩, hvalue, hkey⟩ := List.mem_map.mp hx
  obtain ⟨rfl, rfl⟩ := Prod.mk.inj hkey
  rcases OrderedPairs.mem_place hpairs with hnew | hold
  · obtain ⟨rfl, rfl⟩ := Prod.mk.inj hnew
    rcases OrderedPairs.mem_place hvalue with hpair | hpair
    · exact .inl (Prod.mk.inj hpair).2
    · cases hget : m.pages.get? (k / pageLength) with
      | none =>
        rw [hget] at hpair
        cases hpair
      | some old =>
        rw [hget] at hpair
        refine .inr (List.mem_flatMap.mpr ⟨_, OrderedPairs.mem_of_find hget, ?_⟩)
        exact List.mem_map.mpr ⟨_, hpair, rfl⟩
  · exact .inr (List.mem_flatMap.mpr ⟨_, hold, List.mem_map.mpr ⟨_, hvalue, rfl⟩⟩)

end IndexMap

end WorkbookTools
