import Mathlib.Data.List.Basic
import Mathlib.Data.List.TakeWhile
import TableFeed.Text.Blank
import TableFeed.Text.Split

/-!
# Cutting and trimming

* **`every_append`**, **`flatten_every`** — a text that is cut at some characters.
* **`trimBy_spaced`** — a text is trimmed up to its first and its last character that stays.
* **`trimBy_behind`** — behind a text that stays, only the end is trimmed.
-/

namespace TableFeed

namespace Split

/-- A piece without a separator stands for itself in front of one. -/
theorem every_append {p : Char → Bool} {cs : List Char} {c : Char} (rest : List Char)
    (hcs : ∀ d ∈ cs, p d = false) (hc : p c = true) :
    Split.every p (cs ++ c :: rest) = cs :: Split.every p rest := by
  induction cs with
  | nil =>
    show Split.every p (c :: rest) = _
    rw [Split.every, if_pos hc]
  | cons d ds ih =>
    have hd : ¬ p d = true := by simp [hcs d List.mem_cons_self]
    rw [List.cons_append, Split.every, if_neg hd, ih fun e he => hcs e (List.mem_cons_of_mem d he)]

/-- The pieces together are the text but for the characters that it is cut at. -/
theorem flatten_every (p : Char → Bool) (cs : List Char) :
    (every p cs).flatten = cs.filter fun c => !p c := by
  induction cs with
  | nil => rfl
  | cons d rest ih =>
    rw [every]
    cases hd : p d with
    | true =>
      rw [List.filter_cons_of_neg (by simp [hd]), ← ih]
      rfl
    | false =>
      rw [List.filter_cons_of_pos (by simp [hd]), ← ih, if_neg (by simp)]
      cases every p rest <;> rfl

end Split

namespace Blank

variable {p : Char → Bool} {cs : List Char}

theorem dropWhile_front {front : List Char} (hfront : ∀ c ∈ front, p c = true)
    (hcs : ∀ c ∈ cs.head?, p c = false) : (front ++ cs).dropWhile p = cs := by
  induction front with
  | nil =>
    cases cs with
    | nil => rfl
    | cons c cs => exact List.dropWhile_cons_of_neg (by simp [hcs c rfl])
  | cons c front ih =>
    rw [List.cons_append, List.dropWhile_cons_of_pos (hfront c List.mem_cons_self)]
    exact ih fun d hd => hfront d (List.mem_cons_of_mem c hd)

/-- What stands around a text is trimmed, and no more if the text neither begins nor ends with the
like. -/
theorem trimBy_spaced {before after : List Char} (hne : cs ≠ [])
    (hbefore : ∀ c ∈ before, p c = true) (hafter : ∀ c ∈ after, p c = true)
    (hfirst : ∀ c ∈ cs.head?, p c = false) (hlast : ∀ c ∈ cs.getLast?, p c = false) :
    trimBy p (before ++ (cs ++ after)) = cs := by
  have hhead : (cs ++ after).head? = cs.head? := by
    obtain ⟨c, tail, rfl⟩ := List.exists_cons_of_ne_nil hne
    rfl
  unfold trimBy
  rw [dropWhile_front hbefore (hhead ▸ hfirst), List.reverse_append,
    dropWhile_front (fun c hc => hafter c (List.mem_reverse.mp hc)) (by rwa [List.head?_reverse]),
    List.reverse_reverse]

theorem trimBy_eq (hfirst : ∀ c ∈ cs.head?, p c = false) (hlast : ∀ c ∈ cs.getLast?, p c = false) :
    trimBy p cs = cs := by
  by_cases hne : cs = []
  · rw [hne]
    rfl
  · have h := trimBy_spaced hne (List.forall_mem_nil _) (List.forall_mem_nil _) hfirst hlast
    rwa [List.append_nil, List.nil_append] at h

theorem trimBy_eq_nil : trimBy p cs = [] ↔ ∀ c ∈ cs, p c = true := by
  unfold trimBy
  rw [List.reverse_eq_nil_iff, List.dropWhile_eq_nil_iff]
  constructor
  · intro h c hc
    rw [← List.takeWhile_append_dropWhile (p := p) (l := cs)] at hc
    rcases List.mem_append.mp hc with hc | hc
    · exact List.mem_takeWhile_imp hc
    · exact h c (List.mem_reverse.mpr hc)
  · exact fun h c hc => h c ((List.dropWhile_sublist p).subset (List.mem_reverse.mp hc))

/-- A text is all of a class, or it stands among the like from its first to its last other character. -/
theorem spaced_cases (p : Char → Bool) (cs : List Char) : (∀ c ∈ cs, p c = true) ∨
    ∃ before core after, cs = before ++ (core ++ after) ∧ core ≠ [] ∧
      (∀ c ∈ before, p c = true) ∧ (∀ c ∈ after, p c = true) ∧
      (∀ c ∈ core.head?, p c = false) ∧ ∀ c ∈ core.getLast?, p c = false := by
  induction cs with
  | nil => exact .inl (List.forall_mem_nil _)
  | cons c rest ih =>
    cases hc : p c with
    | true =>
      rcases ih with hall | ⟨before, core, after, rfl, hne, hbefore, hafter, hfirst, hlast⟩
      · exact .inl (List.forall_mem_cons.mpr ⟨hc, hall⟩)
      · exact .inr ⟨c :: before, core, after, rfl, hne, List.forall_mem_cons.mpr ⟨hc, hbefore⟩,
          hafter, hfirst, hlast⟩
    | false =>
      -- the text begins here, and goes on to where it ended before
      have hhead : ∀ tail : List Char, ∀ d ∈ (c :: tail).head?, p d = false := by
        rintro tail d ⟨⟩
        exact hc
      rcases ih with hall | ⟨before, core, after, rfl, hne, -, hafter, -, hlast⟩
      · exact .inr ⟨[], [c], rest, rfl, List.cons_ne_nil _ _, List.forall_mem_nil _, hall, hhead [],
          hhead []⟩
      · refine .inr ⟨[], c :: (before ++ core), after, by simp, List.cons_ne_nil _ _,
          List.forall_mem_nil _, hafter, hhead _, ?_⟩
        rwa [← List.cons_append, List.getLast?_append_of_ne_nil _ hne]

/-- Behind a text that stays, a text is trimmed at its end. -/
theorem trimBy_behind {front : List Char} (hne : front ≠ []) (hfront : ∀ c ∈ front.head?, p c = false)
    (hcs : ¬ ∀ c ∈ cs, p c = true) : ∃ before, (∀ c ∈ before, p c = true) ∧
      trimBy p (front ++ cs) = front ++ (before ++ trimBy p cs) ∧
      ∀ c ∈ (trimBy p cs).head?, p c = false := by
  obtain ⟨before, core, after, rfl, hcore, hbefore, hafter, hfirst, hlast⟩ :=
    (spaced_cases p cs).resolve_left hcs
  refine ⟨before, hbefore, ?_⟩
  rw [trimBy_spaced hcore hbefore hafter hfirst hlast]
  have hhead : (front ++ (before ++ core)).head? = front.head? := by
    obtain ⟨c, tail, rfl⟩ := List.exists_cons_of_ne_nil hne
    rfl
  have hend : (front ++ (before ++ core)).getLast? = core.getLast? := by
    rw [← List.append_assoc, List.getLast?_append_of_ne_nil _ hcore]
  have htrim : trimBy p ([] ++ ((front ++ (before ++ core)) ++ after)) = front ++ (before ++ core) :=
    trimBy_spaced (by simp [hne]) (List.forall_mem_nil _) hafter (hhead ▸ hfront) (hend ▸ hlast)
  simp only [List.nil_append, List.append_assoc] at htrim
  exact ⟨htrim, hfirst⟩

end Blank

end TableFeed
