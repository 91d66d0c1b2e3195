import TableFeed.Proofs.Lookup
import TableFeed.Registry.Basic

/-!
# The feeds of a registry as a map

A registry keeps its feeds in a list in the order of their ids. What the rest of the theory needs of
that list is how a lookup answers after a feed was put in, and that no id stands in it twice:

* **`lookup_putFeed`** — the lookups after a feed was put in. The list need not be in order.
* **`Ordered`** — the ids increase strictly. `ordered_putFeed` and its companions keep it.
* **`lookup_eq_some_iff`** — in an ordered list a lookup finds exactly the entries of the list.
-/

namespace TableFeed

namespace Registry

/-- Putting a feed in changes the lookup of its id and no other. -/
theorem lookup_putFeed (id i : String) (f : Feed) (l : List (String × Feed)) :
    (putFeed id f l).lookup i = if i = id then some f else l.lookup i := by
  induction l with
  | nil => exact lookup_cons i id f []
  | cons e rest ih =>
    obtain ⟨k, g⟩ := e
    unfold putFeed
    by_cases hk : k = id
    · rw [if_pos hk, lookup_cons, lookup_cons, hk]
      split <;> rfl
    · rw [if_neg hk]
      by_cases hlt : id < k
      · rw [if_pos hlt, lookup_cons]
      · rw [if_neg hlt, lookup_cons, lookup_cons, ih]
        by_cases h : i = k
        · -- found in front of the place where the feed was put in
          have hne : ¬ i = id := fun heq => hk (h ▸ heq)
          rw [if_pos h, if_neg hne, if_pos h]
        · rw [if_neg h, if_neg h]

/-! ## The order of ids -/

/-- The ids of a list of feeds increase strictly. -/
def Ordered (l : List (String × Feed)) : Prop :=
  l.Pairwise fun e e' => e.1 < e'.1

/-- The ids after a feed was put in are those before and its own. -/
theorem mem_putFeed {id : String} {f : Feed} {l : List (String × Feed)} {e : String × Feed}
    (h : e ∈ putFeed id f l) : e = (id, f) ∨ e ∈ l := by
  induction l with
  | nil => simpa [putFeed] using h
  | cons e' rest ih =>
    obtain ⟨k, g⟩ := e'
    unfold putFeed at h
    split at h
    · rcases List.mem_cons.mp h with h | h
      · exact Or.inl h
      · exact Or.inr (List.mem_cons_of_mem _ h)
    · split at h
      · rcases List.mem_cons.mp h with h | h
        · exact Or.inl h
        · exact Or.inr h
      · rcases List.mem_cons.mp h with h | h
        · exact Or.inr (h ▸ List.mem_cons_self)
        · exact (ih h).imp_right (List.mem_cons_of_mem _)

/-- A feed is put in at the place of its id. -/
theorem ordered_putFeed (id : String) (f : Feed) {l : List (String × Feed)} (h : Ordered l) :
    Ordered (putFeed id f l) := by
  induction l with
  | nil => exact List.pairwise_singleton _ _
  | cons e rest ih =>
    obtain ⟨k, g⟩ := e
    obtain ⟨hfirst, hrest⟩ := List.pairwise_cons.mp h
    unfold putFeed
    by_cases hk : k = id
    · rw [if_pos hk]
      subst hk
      exact List.pairwise_cons.mpr ⟨hfirst, hrest⟩
    · rw [if_neg hk]
      by_cases hlt : id < k
      · rw [if_pos hlt]
        refine List.pairwise_cons.mpr ⟨?_, h⟩
        intro e he
        rcases List.mem_cons.mp he with rfl | he
        · exact hlt
        · exact lt_trans hlt (hfirst e he)
      · -- the new id comes behind the first one, wherever in the rest it goes
        rw [if_neg hlt]
        have hgt : k < id := lt_of_le_of_ne (not_lt.mp hlt) hk
        refine List.pairwise_cons.mpr ⟨?_, ih hrest⟩
        intro e he
        rcases mem_putFeed he with rfl | he
        · exact hgt
        · exact hfirst e he

/-- Taking feeds out keeps the order. -/
theorem ordered_filter (p : String × Feed → Bool) {l : List (String × Feed)} (h : Ordered l) :
    Ordered (l.filter p) :=
  List.Pairwise.filter p h

/-- Changing feeds under their ids keeps the order. -/
theorem ordered_map (g : Feed → Feed) {l : List (String × Feed)} (h : Ordered l) :
    Ordered (l.map fun e => (e.1, g e.2)) :=
  List.pairwise_map.mpr h

/-- In an ordered list a lookup finds exactly the entries. -/
theorem lookup_eq_some_iff {id : String} {f : Feed} {l : List (String × Feed)} (h : Ordered l) :
    l.lookup id = some f ↔ (id, f) ∈ l := by
  refine ⟨mem_of_lookup, ?_⟩
  intro hmem
  induction l with
  | nil => simp at hmem
  | cons e rest ih =>
    obtain ⟨k, g⟩ := e
    obtain ⟨hfirst, hrest⟩ := List.pairwise_cons.mp h
    rw [lookup_cons]
    rcases List.mem_cons.mp hmem with heq | hmem
    · obtain ⟨rfl, rfl⟩ := Prod.mk.inj heq
      exact if_pos rfl
    · have hne : ¬ id = k := (ne_of_lt (hfirst _ hmem)).symm
      rw [if_neg hne]
      exact ih hrest hmem

end Registry

end TableFeed
