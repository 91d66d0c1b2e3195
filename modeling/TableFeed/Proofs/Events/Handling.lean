import Mathlib.Data.List.TakeWhile
import TableFeed.Events.Delivery
import TableFeed.Proofs.Events.Attempts

/-!
# Handlings

A batch is delivered by handling its entries one after the other. `Service.handlings` is the list of
these handlings: the entry, the state it was handled in and the verdict on it. The outcome of the
batch can be read off that list, and so can the count of failed attempts.

* **`deliver_eq`** — what may be acknowledged, what was dropped and whether the batch was abandoned,
  in terms of its handlings.
* **`handlings_prefix`**, **`handlings_complete`** — the entries handled are the first ones of the
  batch, in order; all of them, unless the batch was abandoned.
* **`Attempts.Tracks`** — the counts are those of a history of handlings. **`deliver_tracked`** keeps
  it and says at which failure an entry is dropped.
-/

namespace TableFeed

/-- One handling of an entry. -/
structure Handling (σ : Type) where
  entry : Entry
  before : σ
  verdict : Verdict

/-- The entry is not to be delivered again. -/
def Verdict.settled : Verdict → Bool
  | .failed => false
  | _ => true

theorem Verdict.settled_eq_false {v : Verdict} : v.settled = false ↔ v = .failed := by
  cases v <;> simp [settled]

namespace Service

variable {σ : Type}

/-- The handlings of a batch: of each entry in order, up to the first that fails. -/
def handlings (service : Service σ) : List Entry → Option Attempts → σ → List (Handling σ)
  | [], _, _ => []
  | e :: rest, attempts, s =>
    let (s', attempts, verdict) := service.attempt e attempts s
    ⟨e, s, verdict⟩ :: if verdict.settled then handlings service rest attempts s' else []

end Service

/-- The outcome of a batch with these handlings. -/
def Delivery.ofHandlings {σ : Type} (hs : List (Handling σ)) : Delivery where
  acked := (hs.takeWhile (·.verdict.settled)).map (·.entry.id)
  dropped := ((hs.takeWhile (·.verdict.settled)).filter (·.verdict = .dropped)).map (·.entry.id)
  abandoned := hs.any (·.verdict = .failed)

namespace Service

variable {σ : Type} (service : Service σ)

/-! ## The outcome of a batch -/

/-- The first entry of a batch is handled, and the others unless it failed. -/
theorem handlings_cons (e : Entry) (rest : List Entry) {attempts attempts' : Option Attempts}
    {s s' : σ} {verdict : Verdict} (h : service.attempt e attempts s = (s', attempts', verdict)) :
    service.handlings (e :: rest) attempts s =
      ⟨e, s, verdict⟩ ::
        if verdict.settled then service.handlings rest attempts' s' else [] := by
  rw [handlings, h]

/-- A batch whose first entry failed ends there. -/
theorem deliver_failed {e : Entry} (rest : List Entry) {attempts attempts' : Option Attempts}
    {s s' : σ} (h : service.attempt e attempts s = (s', attempts', .failed)) :
    service.deliver (e :: rest) attempts s = (s', attempts', { abandoned := true }) := by
  rw [deliver, h]

/-- A batch whose first entry is settled goes on with the others. -/
theorem deliver_settled {e : Entry} (rest : List Entry) {attempts attempts' : Option Attempts}
    {s s' : σ} {verdict : Verdict} (h : service.attempt e attempts s = (s', attempts', verdict))
    (hv : verdict.settled = true) :
    service.deliver (e :: rest) attempts s =
      ((service.deliver rest attempts' s').1, (service.deliver rest attempts' s').2.1,
        (service.deliver rest attempts' s').2.2.settle e.id verdict) := by
  rw [deliver, h]
  cases verdict with
  | failed => exact absurd hv (by simp [Verdict.settled])
  | handled => rfl
  | dropped => rfl

/-- A settled entry in front of a batch goes in front of its outcome. -/
theorem settle_ofHandlings (h : Handling σ) (hs : List (Handling σ))
    (hv : h.verdict.settled = true) :
    (Delivery.ofHandlings hs).settle h.entry.id h.verdict = .ofHandlings (h :: hs) := by
  obtain ⟨e, s, verdict⟩ := h
  cases verdict with
  | failed => exact absurd hv (by simp [Verdict.settled])
  | handled => rfl
  | dropped => rfl

/-- The outcome of a batch is that of its handlings. -/
theorem deliver_eq (entries : List Entry) (attempts : Option Attempts) (s : σ) :
    (service.deliver entries attempts s).2.2 =
      .ofHandlings (service.handlings entries attempts s) := by
  induction entries generalizing attempts s with
  | nil => rfl
  | cons e rest ih =>
    rcases h : service.attempt e attempts s with ⟨s', attempts', verdict⟩
    rw [service.handlings_cons e rest h]
    cases hv : verdict.settled with
    | false =>
      obtain rfl := Verdict.settled_eq_false.mp hv
      rw [service.deliver_failed rest h]
      rfl
    | true =>
      rw [service.deliver_settled rest h hv, ih]
      exact settle_ofHandlings ⟨e, s, verdict⟩ _ hv

/-- The entries handled are the first ones of the batch. -/
theorem handlings_prefix (entries : List Entry) (attempts : Option Attempts) (s : σ) :
    (service.handlings entries attempts s).map (·.entry) <+: entries := by
  induction entries generalizing attempts s with
  | nil => exact List.nil_prefix
  | cons e rest ih =>
    rcases h : service.attempt e attempts s with ⟨s', attempts', verdict⟩
    rw [service.handlings_cons e rest h, List.map_cons, List.prefix_cons_inj]
    cases verdict.settled with
    | false => exact List.nil_prefix
    | true => exact ih attempts' s'

/-- A batch that was not abandoned was handled to its end. -/
theorem handlings_complete (entries : List Entry) (attempts : Option Attempts) (s : σ)
    (hdone : (service.deliver entries attempts s).2.2.abandoned = false) :
    (service.deliver entries attempts s).2.2.acked = entries.map (·.id) := by
  induction entries generalizing attempts s with
  | nil => rfl
  | cons e rest ih =>
    rcases h : service.attempt e attempts s with ⟨s', attempts', verdict⟩
    cases hv : verdict.settled with
    | false =>
      obtain rfl := Verdict.settled_eq_false.mp hv
      rw [service.deliver_failed rest h] at hdone
      cases hdone
    | true =>
      rw [service.deliver_settled rest h hv] at hdone ⊢
      exact congrArg (e.id :: ·) (ih attempts' s' hdone)

/-- What may be acknowledged are the ids of the first entries of the batch, in order. -/
theorem acked_prefix (entries : List Entry) (attempts : Option Attempts) (s : σ) :
    (service.deliver entries attempts s).2.2.acked <+: entries.map (·.id) := by
  rw [deliver_eq]
  have hentries := (service.handlings_prefix entries attempts s).map (·.id)
  rw [List.map_map] at hentries
  exact ((List.takeWhile_prefix _).map _).trans hentries

/-- An attempt is handled exactly when processing did not fail. -/
theorem attempt_handled (e : Entry) (attempts : Option Attempts) (s : σ) :
    (service.attempt e attempts s).2.2 = .handled ↔ (service.process e s).2 = none := by
  unfold attempt
  rcases service.process e s with ⟨s₁, _ | cause⟩
  · exact ⟨fun _ => rfl, fun _ => rfl⟩
  · simp only
    split <;> simp

/-- An entry of a batch was handled exactly when processing it did not fail. -/
theorem handled_iff {entries : List Entry} {attempts : Option Attempts} {s : σ} {h : Handling σ}
    (hmem : h ∈ service.handlings entries attempts s) :
    h.verdict = .handled ↔ (service.process h.entry h.before).2 = none := by
  induction entries generalizing attempts s with
  | nil => exact absurd hmem (by simp [handlings])
  | cons e rest ih =>
    rcases ha : service.attempt e attempts s with ⟨s', attempts', v⟩
    rw [service.handlings_cons e rest ha] at hmem
    rcases List.mem_cons.mp hmem with rfl | hmem
    · have hverdict := service.attempt_handled e attempts s
      rw [ha] at hverdict
      exact hverdict
    · cases hv : v.settled with
      | false => exact absurd hmem (by simp [hv])
      | true =>
        rw [hv, if_pos rfl] at hmem
        exact ih hmem

/-- The ids that may be acknowledged are, place by place, those of the handlings, which all settled
their entries. -/
theorem acked_getElem? {hs : List (Handling σ)} {i : Nat}
    (hi : i < (Delivery.ofHandlings hs).acked.length) :
    ∃ h, hs[i]? = some h ∧ h.verdict.settled = true ∧
      (Delivery.ofHandlings hs).acked[i]? = some h.entry.id := by
  have hlt : i < (hs.takeWhile (·.verdict.settled)).length := by
    rwa [Delivery.ofHandlings, List.length_map] at hi
  have hget : (hs.takeWhile (·.verdict.settled))[i]? = some _ := List.getElem?_eq_getElem hlt
  have hsettled : ∀ h ∈ hs.takeWhile (·.verdict.settled), h.verdict.settled = true :=
    fun h hmem => List.mem_takeWhile_imp (p := fun h : Handling σ => h.verdict.settled) hmem
  refine ⟨_, List.prefix_iff_getElem?.mp (List.takeWhile_prefix _) i hlt, ?_, ?_⟩
  · exact hsettled _ (List.getElem_mem hlt)
  · show ((hs.takeWhile _).map _)[i]? = _
    rw [List.getElem?_map, hget]
    rfl

/-- Counts are kept up where they are kept. -/
theorem attempt_counts (e : Entry) (a : Attempts) (s : σ) :
    ∃ a', (service.attempt e (some a) s).2.1 = some a' := by
  unfold Service.attempt
  rcases service.process e s with ⟨s₁, _ | cause⟩
  · exact ⟨a.clear e.id, rfl⟩
  · simp only [Option.map_some]
    rcases a.fail e.id with ⟨a', _ | _⟩ <;> exact ⟨a', rfl⟩

/-- A batch whose attempts are counted has the outcome it has anyway, and the counts after it. -/
theorem deliverTracked_eq (entries : List Entry) (a : Attempts) (s : σ) :
    some (service.deliverTracked entries a s).2.1 = (service.deliver entries (some a) s).2.1 ∧
      (service.deliverTracked entries a s).2.2 = (service.deliver entries (some a) s).2.2 := by
  obtain ⟨a', ha'⟩ : ∃ a', (service.deliver entries (some a) s).2.1 = some a' := by
    induction entries generalizing a s with
    | nil => exact ⟨a, rfl⟩
    | cons e rest ih =>
      rcases h : service.attempt e (some a) s with ⟨s', attempts, v⟩
      obtain ⟨a', ha'⟩ := service.attempt_counts e a s
      rw [h] at ha'
      obtain rfl : attempts = some a' := ha'
      cases hv : v.settled with
      | false =>
        obtain rfl := Verdict.settled_eq_false.mp hv
        rw [service.deliver_failed rest h]
        exact ⟨a', rfl⟩
      | true =>
        rw [service.deliver_settled rest h hv]
        exact ih a' s'
  unfold Service.deliverTracked
  rcases h : service.deliver entries (some a) s with ⟨s', attempts, d⟩
  rw [h] at ha'
  obtain rfl : attempts = some a' := ha'
  exact ⟨rfl, rfl⟩

end Service

/-! ## Counting failed attempts -/

section Counting

variable {σ : Type}

/-- How often the handling of an entry has failed since it was last settled. -/
def failedSince (id : String) (hs : List (Handling σ)) : Nat :=
  hs.foldl
    (fun n h => if h.entry.id = id then if h.verdict.settled then 0 else n + 1 else n) 0

/-- One more handling counts for its own entry only. -/
theorem failedSince_concat (id : String) (hs : List (Handling σ)) (h : Handling σ) :
    failedSince id (hs ++ [h]) =
      if h.entry.id = id then if h.verdict.settled then 0 else failedSince id hs + 1
      else failedSince id hs := by
  unfold failedSince
  rw [List.foldl_append]
  rfl

/-- The counts are those of a history, and every one of them is below the limit. -/
structure Attempts.Tracks (a : Attempts) (hs : List (Handling σ)) : Prop where
  count : ∀ id, a.count id = failedSince id hs
  below : ∀ id, a.count id < a.limit

/-- Nothing was counted before the first handling. -/
theorem Attempts.tracks_nil (limit : Nat) :
    (Attempts.ofLimit limit).Tracks ([] : List (Handling σ)) where
  count _ := rfl
  below _ := Nat.lt_of_lt_of_le Nat.zero_lt_one (Nat.le_max_right limit 1)

variable {a : Attempts} {hs : List (Handling σ)}

/-- Forgetting the failures of an entry follows a handling that settled it. -/
theorem Attempts.Tracks.clear (ht : a.Tracks hs) (e : Entry) (s : σ) {v : Verdict}
    (hv : v.settled = true) : (a.clear e.id).Tracks (hs ++ [⟨e, s, v⟩]) where
  count id := by
    rw [count_clear, failedSince_concat, hv, ht.count]
    by_cases heq : id = e.id
    · rw [if_pos heq, if_pos heq.symm, if_pos rfl]
    · rw [if_neg heq, if_neg (Ne.symm heq)]
  below id := by
    have hid := ht.below id
    rw [count_clear, clear_limit]
    split <;> omega

/-- Counting a failure of an entry follows a handling that failed. -/
theorem Attempts.Tracks.counted (ht : a.Tracks hs) (e : Entry) (s : σ)
    (hmore : a.count e.id + 1 < a.limit) :
    (a.counted e.id).Tracks (hs ++ [⟨e, s, .failed⟩]) where
  count id := by
    rw [count_counted, failedSince_concat, ht.count, ht.count]
    by_cases heq : id = e.id
    · rw [if_pos heq, if_pos heq.symm, heq]
      rfl
    · rw [if_neg heq, if_neg (Ne.symm heq)]
  below id := by
    have hid := ht.below id
    rw [count_counted, counted_limit]
    split <;> omega

variable (service : Service σ) {e : Entry} {s s' : σ}

/-- An attempt goes on with the counts of the history. An entry is dropped with the failure that
reaches the limit, and it failed with any one before. -/
theorem attempt_tracked (ht : a.Tracks hs) {attempts : Option Attempts} {v : Verdict}
    (h : service.attempt e (some a) s = (s', attempts, v)) :
    ∃ a', attempts = some a' ∧ a'.limit = a.limit ∧ a'.Tracks (hs ++ [⟨e, s, v⟩]) ∧
      (v = .dropped → failedSince e.id hs + 1 = a.limit) := by
  have hcount := ht.count e.id
  have hbelow := ht.below e.id
  unfold Service.attempt at h
  rcases hp : service.process e s with ⟨s₁, _ | cause⟩
  · simp only [hp, Option.map_some, Prod.mk.injEq] at h
    obtain ⟨rfl, rfl, rfl⟩ := h
    exact ⟨a.clear e.id, rfl, rfl, ht.clear e s rfl, fun h => by cases h⟩
  · -- this failure is the last that the limit allows, or it leaves the count below it
    by_cases hlast : a.limit ≤ a.count e.id + 1
    · simp only [hp, Option.map_some, Attempts.fail_of_last hlast, Prod.mk.injEq] at h
      obtain ⟨rfl, rfl, rfl⟩ := h
      exact ⟨a.clear e.id, rfl, rfl, ht.clear e s rfl, fun _ => by omega⟩
    · simp only [hp, Option.map_some, Attempts.fail_of_more hlast, Prod.mk.injEq] at h
      obtain ⟨rfl, rfl, rfl⟩ := h
      have hmore : a.count e.id + 1 < a.limit := by omega
      exact ⟨a.counted e.id, rfl, rfl, ht.counted e s hmore, fun h => by cases h⟩

/-- A batch goes on with the counts of the history, and what is dropped in it has failed as often as
the limit says. -/
theorem deliver_tracked (entries : List Entry) (ht : a.Tracks hs) (s : σ) :
    ∃ a', (service.deliver entries (some a) s).2.1 = some a' ∧ a'.limit = a.limit ∧
      a'.Tracks (hs ++ service.handlings entries (some a) s) ∧
      ∀ pre h post, service.handlings entries (some a) s = pre ++ h :: post →
        h.verdict = .dropped → failedSince h.entry.id (hs ++ pre) + 1 = a.limit := by
  induction entries generalizing a hs s with
  | nil =>
    refine ⟨a, rfl, rfl, by simpa [Service.handlings] using ht, ?_⟩
    intro pre h post heq
    exact absurd heq (by simp [Service.handlings])
  | cons e rest ih =>
    rcases h : service.attempt e (some a) s with ⟨s', attempts, v⟩
    obtain ⟨a', rfl, hlimit, ht', hdropped⟩ := attempt_tracked service ht h
    rw [service.handlings_cons e rest h]
    cases hv : v.settled with
    | false =>
      -- the batch ends with a failure, and nothing in it was dropped
      obtain rfl := Verdict.settled_eq_false.mp hv
      rw [service.deliver_failed rest h]
      refine ⟨a', rfl, hlimit, ht', ?_⟩
      intro pre x post heq hx
      obtain ⟨rfl, rfl, rfl⟩ : pre = [] ∧ ⟨e, s, .failed⟩ = x ∧ post = [] := by
        cases pre <;> simp_all
      cases hx
    | true =>
      rw [service.deliver_settled rest h hv]
      obtain ⟨a'', hafter, hlimit', ht'', hrest⟩ := ih ht' s'
      refine ⟨a'', hafter, hlimit'.trans hlimit, ?_, ?_⟩
      · rw [List.append_assoc] at ht''
        exact ht''
      · intro pre x post heq hx
        rw [if_pos rfl] at heq
        cases pre with
        | nil =>
          obtain ⟨rfl, _⟩ := List.cons.inj heq
          rw [List.append_nil]
          exact hdropped hx
        | cons y pre =>
          obtain ⟨rfl, htail⟩ := List.cons.inj heq
          have hlast := hrest pre x post htail hx
          rw [List.append_assoc] at hlast
          exact hlast.trans hlimit

end Counting

end TableFeed
