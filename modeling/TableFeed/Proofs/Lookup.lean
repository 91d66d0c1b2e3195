import Mathlib.Data.String.Basic

/-!
# Lookups in lists of pairs

Feeds, counts of failures and files are kept in lists of pairs, each under its key. These lemmas say
what a lookup finds after the operations that all of them share: a pair put in front, the pairs of a
key taken out, every value changed. Where what is said last counts, the list is looked up from its end.
-/

namespace TableFeed

variable {κ β γ : Type} [BEq κ] [LawfulBEq κ] [DecidableEq κ]

/-- A lookup tries the first pair, then the rest. -/
theorem lookup_cons (i k : κ) (b : β) (l : List (κ × β)) :
    ((k, b) :: l).lookup i = if i = k then some b else l.lookup i := by
  rw [List.lookup_cons]
  by_cases h : i = k
  · rw [if_pos h, beq_iff_eq.mpr h]
  · rw [if_neg h, beq_eq_false_iff_ne.mpr h]

/-- Taking a key out leaves the lookups of the others. -/
theorem lookup_removed (key i : κ) (l : List (κ × β)) :
    (l.filter (·.1 ≠ key)).lookup i = if i = key then none else l.lookup i := by
  induction l with
  | nil => simp
  | cons e rest ih =>
    obtain ⟨k, b⟩ := e
    by_cases hk : k = key
    · rw [List.filter_cons_of_neg (by simpa using hk), ih, lookup_cons, hk]
      split <;> rfl
    · rw [List.filter_cons_of_pos (by simpa using hk), lookup_cons, lookup_cons, ih]
      by_cases h : i = k
      · have hne : ¬ i = key := fun heq => hk (h ▸ heq)
        rw [if_pos h, if_neg hne, if_pos h]
      · rw [if_neg h, if_neg h]

/-- Changing every value changes what each lookup finds. -/
theorem lookup_mapped (g : β → γ) (i : κ) (l : List (κ × β)) :
    (l.map fun e => (e.1, g e.2)).lookup i = (l.lookup i).map g := by
  induction l with
  | nil => rfl
  | cons e rest ih =>
    obtain ⟨k, b⟩ := e
    rw [List.map_cons, lookup_cons, lookup_cons, ih]
    split <;> rfl

/-- What a lookup finds stands in the list. -/
theorem mem_of_lookup {key : κ} {b : β} {l : List (κ × β)} (h : l.lookup key = some b) :
    (key, b) ∈ l := by
  induction l with
  | nil => simp at h
  | cons e rest ih =>
    obtain ⟨k, b'⟩ := e
    rw [lookup_cons] at h
    by_cases hk : key = k
    · rw [if_pos hk] at h
      rw [hk, Option.some.inj h]
      exact List.mem_cons_self
    · rw [if_neg hk] at h
      exact List.mem_cons_of_mem _ (ih h)

omit [DecidableEq κ] in
/-- What is said last counts. -/
theorem lookup_reverse_last {key : κ} {b : β} {l m : List (κ × β)} (h : ∀ p ∈ m, p.1 ≠ key) :
    (l ++ (key, b) :: m).reverse.lookup key = some b := by
  have hnone : m.reverse.lookup key = none := by
    rw [List.lookup_eq_none_iff]
    intro p hp
    exact bne_iff_ne.mpr (h p (List.mem_reverse.mp hp)).symm
  rw [List.reverse_append, List.reverse_cons, List.append_assoc, List.lookup_append, hnone,
    Option.none_or, List.singleton_append, List.lookup_cons_self]

omit [DecidableEq κ] in
/-- The last pair of a key, by its place. -/
theorem lookup_reverse_getElem {key : κ} {b : β} {l : List (κ × β)} {i : Nat}
    (hi : l[i]? = some (key, b)) (hlast : ∀ j p, i < j → l[j]? = some p → p.1 ≠ key) :
    l.reverse.lookup key = some b := by
  have hsplit := List.take_append_drop i l
  rw [List.drop_eq_getElem?_toList_append, hi, Option.toList_some, List.singleton_append] at hsplit
  rw [← hsplit]
  refine lookup_reverse_last fun p hp => ?_
  obtain ⟨k, hk⟩ := List.mem_iff_getElem?.mp hp
  rw [List.getElem?_drop] at hk
  exact hlast (i + 1 + k) p (by omega) hk

end TableFeed
