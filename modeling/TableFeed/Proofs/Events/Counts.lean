import Mathlib.Data.List.DropRight
import Mathlib.Data.List.Induction
import Mathlib.Data.Set.Card
import TableFeed.Proofs.Events.Attempts

/-!
# Counts over a history

The table of counts forgets an entry with a success of it and with the failure that uses up its
attempts. Of all that was called before, an answer depends on the failures of its own entry behind the
last success, and the table holds the entries that have some left over.

* **`since`** — what a history has had of something since something else happened last.
* **`Tallied`** — the invariant: every count is that of the failures since the entry was forgotten, and it
  is the remainder of those since its last success.
* **`Tallied.call`** — the crux: each call keeps it, since the failure that reaches the limit is the one
  with which the remainder starts again.
* **`counts_exact`** — so the answers and the number of pending entries are read off the history.
-/

namespace TableFeed

/-! ## Histories -/

section

variable {α : Type} {ends counts : α → Bool}

/-- How many items of a list count behind the last one that ends the counting. -/
def since (ends counts : α → Bool) (l : List α) : ℕ :=
  (l.rtakeWhile fun x => !ends x).countP counts

theorem since_concat (l : List α) (x : α) : since ends counts (l ++ [x]) =
    if ends x then 0 else since ends counts l + if counts x then 1 else 0 := by
  unfold since
  rw [List.rtakeWhile_concat]
  cases ends x with
  | true => rfl
  | false =>
    refine List.countP_append.trans ?_
    rw [List.countP_singleton]
    rfl

/-- Items that neither end the counting nor count may be left out. -/
theorem since_filter {p : α → Bool} (hends : ∀ x, ends x = true → p x = true)
    (hcounts : ∀ x, counts x = true → p x = true) (l : List α) :
    since ends counts (l.filter p) = since ends counts l := by
  induction l using List.reverseRecOn with
  | nil => rfl
  | append_singleton l x ih =>
    rw [List.filter_append, since_concat]
    cases hp : p x with
    | true => rw [List.filter_cons_of_pos hp, List.filter_nil, since_concat, ih]
    | false =>
      have hnot : ends x = false ∧ counts x = false :=
        ⟨Bool.eq_false_iff.mpr fun h => Bool.eq_false_iff.mp hp (hends x h),
          Bool.eq_false_iff.mpr fun h => Bool.eq_false_iff.mp hp (hcounts x h)⟩
      rw [List.filter_cons_of_neg (by simp [hp]), List.filter_nil, List.append_nil, ih, hnot.1, hnot.2]
      rfl

end

namespace Attempts

/-- What is done with the count of an entry. -/
inductive Call where
  | fail (id : String)
  | clear (id : String)
  deriving DecidableEq, Repr

/-- The entry that a call is about. -/
def Call.id : Call → String
  | .fail id | .clear id => id

/-- The counts after a call, and its answer: whether the attempts are used up. -/
def call (a : Attempts) : Call → Attempts × Bool
  | .fail id => a.fail id
  | .clear id => (a.clear id, false)

/-- The counts after some calls, and the calls with their answers. -/
def run (a : Attempts) (calls : List Call) : Attempts × List (Call × Bool) :=
  calls.foldl (fun (a, answered) c => ((a.call c).1, answered ++ [(c, (a.call c).2)])) (a, [])

theorem run_concat (a : Attempts) (calls : List Call) (c : Call) :
    a.run (calls ++ [c]) = (((a.run calls).1.call c).1,
      (a.run calls).2 ++ [(c, ((a.run calls).1.call c).2)]) := by
  unfold run
  rw [List.foldl_append]
  rfl

/-- The failures of an entry since it was last cleared. -/
def failed (id : String) (calls : List Call) : ℕ :=
  since (· = .clear id) (· = .fail id) calls

/-- The failures of an entry since it was last cleared or its attempts were used up. -/
def outstanding (id : String) (answered : List (Call × Bool)) : ℕ :=
  since (fun p => p.1 = .clear id ∨ p = (.fail id, true)) (·.1 = .fail id) answered

section

variable (id i : String) (calls : List Call) (answered : List (Call × Bool))

theorem failed_clear : failed i (calls ++ [.clear id]) = if i = id then 0 else failed i calls := by
  unfold failed
  rw [since_concat]
  simp [eq_comm]

theorem failed_fail :
    failed i (calls ++ [.fail id]) = failed i calls + if i = id then 1 else 0 := by
  unfold failed
  rw [since_concat]
  simp [eq_comm]

theorem outstanding_clear (answer : Bool) : outstanding i (answered ++ [(.clear id, answer)]) =
    if i = id then 0 else outstanding i answered := by
  unfold outstanding
  rw [since_concat]
  simp [eq_comm]

theorem outstanding_used : outstanding i (answered ++ [(.fail id, true)]) =
    if i = id then 0 else outstanding i answered := by
  unfold outstanding
  rw [since_concat]
  by_cases h : i = id
  · simp [h]
  · simp [h, Ne.symm h]

theorem outstanding_fail : outstanding i (answered ++ [(.fail id, false)]) =
    outstanding i answered + if i = id then 1 else 0 := by
  unfold outstanding
  rw [since_concat]
  simp [eq_comm]

end

/-! ## The invariant -/

/-- The counts are what some calls have made of them. -/
structure Tallied (limit : ℕ) (calls : List Call) (answered : List (Call × Bool)) (a : Attempts) :
    Prop where
  limit_eq : a.limit = max limit 1
  count_eq : ∀ id, a.count id = outstanding id answered
  remainder : ∀ id, outstanding id answered = failed id calls % max limit 1
  /-- An entry is counted once. -/
  distinct : (a.failures.map (·.1)).Nodup
  /-- An entry without failures is not in the table. -/
  counted : ∀ p ∈ a.failures, a.count p.1 = p.2 ∧ 0 < p.2

namespace Tallied

variable {limit : ℕ} {calls : List Call} {answered : List (Call × Bool)} {a : Attempts}

theorem ofLimit (limit : ℕ) : Tallied limit [] [] (ofLimit limit) where
  limit_eq := rfl
  count_eq _ := rfl
  remainder _ := (Nat.zero_mod _).symm
  distinct := List.nodup_nil
  counted _ hp := nomatch hp

section

variable (h : Tallied limit calls answered a)
include h

theorem count_lt (id : String) : a.count id < max limit 1 := by
  rw [h.count_eq, h.remainder]
  exact Nat.mod_lt _ (by omega)

theorem clear_distinct (id : String) : ((a.clear id).failures.map (·.1)).Nodup :=
  h.distinct.sublist (List.filter_sublist.map _)

theorem clear_counted (id : String) :
    ∀ p ∈ (a.clear id).failures, p.1 ≠ id ∧ a.count p.1 = p.2 ∧ 0 < p.2 := by
  intro p hp
  obtain ⟨hmem, hne⟩ := List.mem_filter.mp hp
  exact ⟨of_decide_eq_true hne, h.counted p hmem⟩

/-- An entry is forgotten by a call that leaves nothing of its failures outstanding. -/
theorem forget {c : Call} {answer : Bool} (id : String)
    (hanswered : ∀ i, outstanding i (answered ++ [(c, answer)]) =
      if i = id then 0 else outstanding i answered)
    (hcalls : ∀ i, failed i (calls ++ [c]) % max limit 1 =
      if i = id then 0 else failed i calls % max limit 1) :
    Tallied limit (calls ++ [c]) (answered ++ [(c, answer)]) (a.clear id) where
  limit_eq := h.limit_eq
  count_eq i := by rw [count_clear, hanswered, h.count_eq]
  remainder i := by rw [hanswered, hcalls, h.remainder]
  distinct := h.clear_distinct id
  counted p hp := by
    obtain ⟨hne, hcount⟩ := h.clear_counted id p hp
    rwa [count_clear, if_neg hne]

theorem clear (id : String) (answer : Bool) :
    Tallied limit (calls ++ [.clear id]) (answered ++ [(.clear id, answer)]) (a.clear id) := by
  refine h.forget id (fun i => outstanding_clear id i answered answer) fun i => ?_
  rw [failed_clear]
  split
  · exact Nat.zero_mod _
  · rfl

/-- The failure that reaches the limit is the one with which the remainder starts again. -/
theorem last {id : String} (hlast : a.limit ≤ a.count id + 1) :
    Tallied limit (calls ++ [.fail id]) (answered ++ [(.fail id, true)]) (a.clear id) := by
  refine h.forget id (fun i => outstanding_used id i answered) fun i => ?_
  rw [failed_fail]
  split
  · rename_i hi
    have hbelow := h.count_lt id
    rw [h.limit_eq] at hlast
    -- the count is below the limit and one failure short of it
    have hfull : failed id calls % max limit 1 + 1 = max limit 1 := by
      rw [← h.remainder, ← h.count_eq]
      omega
    rw [hi, ← Nat.mod_add_mod, hfull, Nat.mod_self]
  · rfl

theorem more {id : String} (hmore : ¬ a.limit ≤ a.count id + 1) :
    Tallied limit (calls ++ [.fail id]) (answered ++ [(.fail id, false)]) (a.counted id) where
  limit_eq := h.limit_eq
  count_eq i := by
    rw [count_counted, outstanding_fail, ← h.count_eq]
    split
    · rename_i hi
      rw [hi]
    · rfl
  remainder i := by
    rw [outstanding_fail, failed_fail, h.remainder]
    split
    · rename_i hi
      rw [h.limit_eq, h.count_eq, h.remainder] at hmore
      rw [hi, ← Nat.mod_add_mod, Nat.mod_eq_of_lt (by omega : _ + 1 < max limit 1)]
    · rfl
  distinct := by
    refine List.nodup_cons.mpr ⟨fun hmem => ?_, h.clear_distinct id⟩
    obtain ⟨p, hp, heq⟩ := List.mem_map.mp hmem
    exact (h.clear_counted id p hp).1 heq
  counted p hp := by
    rcases List.mem_cons.mp hp with rfl | hp
    · exact ⟨by rw [count_counted, if_pos rfl], Nat.succ_pos _⟩
    · obtain ⟨hne, hcount⟩ := h.clear_counted id p hp
      rwa [count_counted, if_neg hne]

theorem call (c : Call) :
    Tallied limit (calls ++ [c]) (answered ++ [(c, (a.call c).2)]) (a.call c).1 := by
  cases c with
  | clear id => exact h.clear id false
  | fail id =>
    show Tallied limit _ (answered ++ [(_, (a.fail id).2)]) (a.fail id).1
    by_cases hlast : a.limit ≤ a.count id + 1
    · rw [fail_of_last hlast]
      exact h.last hlast
    · rw [fail_of_more hlast]
      exact h.more hlast

end

theorem run (limit : ℕ) (calls : List Call) : Tallied limit calls
    ((Attempts.ofLimit limit).run calls).2 ((Attempts.ofLimit limit).run calls).1 := by
  induction calls using List.reverseRecOn with
  | nil => exact ofLimit limit
  | append_singleton calls c ih =>
    rw [run_concat]
    exact ih.call c

section

variable (h : Tallied limit calls answered a)
include h

/-- The answer to a failure is whether the failures of the entry make up a multiple of the limit. -/
theorem fail_iff (id : String) : (a.fail id).2 = true ↔ max limit 1 ∣ failed id calls + 1 := by
  have hcount : a.count id = failed id calls % max limit 1 := (h.count_eq id).trans (h.remainder id)
  have hbelow := h.count_lt id
  have hdvd : max limit 1 ∣ failed id calls + 1 ↔ a.count id + 1 = max limit 1 := by
    rw [Nat.dvd_iff_mod_eq_zero, ← Nat.mod_add_mod, ← hcount]
    constructor
    · intro hzero
      refine Decidable.byContradiction fun hne => ?_
      rw [Nat.mod_eq_of_lt (by omega)] at hzero
      omega
    · intro hfull
      rw [hfull, Nat.mod_self]
  rw [hdvd]
  by_cases hlast : a.limit ≤ a.count id + 1
  · rw [fail_of_last hlast]
    rw [h.limit_eq] at hlast
    exact iff_of_true rfl (by omega)
  · rw [fail_of_more hlast]
    rw [h.limit_eq] at hlast
    exact iff_of_false Bool.false_ne_true (by omega)

theorem mem_table (id : String) : id ∈ a.failures.map (·.1) ↔ 0 < a.count id := by
  constructor
  · intro hmem
    obtain ⟨p, hp, rfl⟩ := List.mem_map.mp hmem
    obtain ⟨hcount, hpos⟩ := h.counted p hp
    omega
  · intro hpos
    cases hfound : a.failures.lookup id with
    | none =>
      unfold count at hpos
      rw [hfound] at hpos
      cases hpos
    | some n => exact List.mem_map.mpr ⟨_, mem_of_lookup hfound, rfl⟩

/-- The table has as many entries as there are with failures outstanding. -/
theorem pending_eq : (a.pending : ℕ∞) =
    {id | 1 ≤ outstanding id answered ∧ outstanding id answered ≤ max limit 1 - 1}.encard := by
  have hset : {id | 1 ≤ outstanding id answered ∧ outstanding id answered ≤ max limit 1 - 1} =
      ((a.failures.map (·.1)).toFinset : Set String) := by
    ext id
    have hbelow := h.count_lt id
    rw [Set.mem_ofPred_eq, List.coe_toFinset, Set.mem_ofPred_eq, h.mem_table, ← h.count_eq]
    omega
  rw [hset, Set.encard_coe_eq_coe_finsetCard, List.toFinset_card_of_nodup h.distinct, List.length_map]
  rfl

end

end Tallied

/-- **Counts are exact, and no entry touches those of another.** After any calls, a failure of an entry
uses up its attempts just if it is the last of a full round of failures since the entry was last cleared;
the calls about other entries could have been left out. The entries that are pending are those with some
failures, but no full round, since they were last cleared or used up. No count reaches the limit, so
counting one more failure stays in a word. -/
theorem counts_exact (limit : UInt32) (calls : List Call) :
    let round := max limit.toNat 1
    let a := ((ofLimit limit.toNat).run calls).1
    let answered := ((ofLimit limit.toNat).run calls).2
    (∀ id, (a.fail id).2 = true ↔ round ∣ failed id calls + 1) ∧
    (∀ id, (a.fail id).2 =
      (((ofLimit limit.toNat).run (calls.filter (·.id = id))).1.fail id).2) ∧
    (a.pending : ℕ∞) =
      {id | 1 ≤ outstanding id answered ∧ outstanding id answered ≤ round - 1}.encard ∧
    (∀ p ∈ a.failures, 1 ≤ p.2 ∧ p.2 < round) ∧
    ∀ id, a.count id + 1 < UInt32.size := by
  intro round a answered
  have h := Tallied.run limit.toNat calls
  refine ⟨h.fail_iff, fun id => ?_, h.pending_eq, fun p hp => ?_, fun id => ?_⟩
  · have hown := Tallied.run limit.toNat (calls.filter (·.id = id))
    have hfailed : failed id (calls.filter (·.id = id)) = failed id calls := by
      refine since_filter ?_ ?_ calls <;>
      · intro c hc
        rw [of_decide_eq_true hc]
        exact decide_eq_true rfl
    rw [Bool.eq_iff_iff, h.fail_iff, hown.fail_iff, hfailed]
  · obtain ⟨hcount, hpos⟩ := h.counted p hp
    exact ⟨hpos, hcount ▸ h.count_lt p.1⟩
  · have hbelow : a.count id < max limit.toNat 1 := h.count_lt id
    have hword : limit.toNat < 4294967296 := limit.toNat_lt_size
    show a.count id + 1 < 4294967296
    omega

end Attempts

end TableFeed
