import TableFeed.Proofs.Events.Handling
import TableFeed.Publishing.LogPublisher
import TableFeed.Service.Adapter

/-!
# Redelivery until nothing is abandoned

The stream delivers a batch again for as long as a delivery of it is abandoned, each time the entries
that were not acknowledged. `Service.redeliver` is this loop with a bound on its rounds; the bound is
shown to be idle once it is large enough.

Some entries are poison: their handling fails whatever the state. The loop has to get past each of
them in a fixed number of rounds and must not handle anything else twice.

## The architecture

* **`Attempts.spent`** — the only counts the loop ever sees: none at all, or those of the entry at the
  front of what is left.
* **`redeliver_settled`**, **`redeliver_failed`** — the loop follows the entry at the front. If that
  is settled, the same round goes on with the others; if it failed, the round is over and the next
  one begins with the same entry.
* **`Drains`** — what the loop comes to, with `spent` failures of the front entry already behind it.
  `Drains.nil`, `Drains.settle` and `Drains.retry` build it along the loop.
* **`redeliver_drains`** — the crux: by induction on the entries, and for a poisonous one on the
  attempts it has left.
-/

namespace TableFeed

namespace Attempts

/-- The counts when so many attempts of one entry, and none of any other, have failed. -/
def spent (limit : Nat) (id : String) : Nat → Attempts
  | 0 => { limit }
  | n + 1 => { limit, failures := [(id, n + 1)] }

@[simp] theorem spent_limit (limit : Nat) (id : String) (n : Nat) :
    (spent limit id n).limit = limit := by
  cases n <;> rfl

@[simp] theorem count_spent (limit : Nat) (id : String) (n : Nat) :
    (spent limit id n).count id = n := by
  cases n with
  | zero => rfl
  | succ n => simp [spent, count]

theorem clear_spent (limit : Nat) (id : String) (n : Nat) :
    (spent limit id n).clear id = { limit } := by
  cases n with
  | zero => rfl
  | succ n => simp [spent, clear]

theorem counted_spent (limit : Nat) (id : String) (n : Nat) :
    (spent limit id n).counted id = spent limit id (n + 1) := by
  have hcleared := clear_spent limit id n
  have hcount := count_spent limit id n
  unfold counted
  rw [hcleared, hcount]
  cases n <;> rfl

end Attempts

/-- What came of delivering a batch again and again. -/
structure Redelivery (σ : Type) where
  deliveries : List Delivery
  /-- Every handling in these deliveries, in order. -/
  handlings : List (Handling σ)
  attempts : Attempts

/-- The redelivery with an entry in front of its first delivery that is settled there. -/
def Redelivery.settle {σ : Type} (r : Redelivery σ) (h : Handling σ) : Redelivery σ where
  deliveries := r.deliveries.modifyHead (·.settle h.entry.id h.verdict)
  handlings := h :: r.handlings
  attempts := r.attempts

/-- The redelivery with a delivery in front of it whose first entry failed. -/
def Redelivery.retry {σ : Type} (r : Redelivery σ) (h : Handling σ) : Redelivery σ where
  deliveries := { abandoned := true } :: r.deliveries
  handlings := h :: r.handlings
  attempts := r.attempts

/-- The entries of a batch that a delivery leaves to be delivered again. -/
def Delivery.left (d : Delivery) (entries : List Entry) : List Entry :=
  entries.filter (·.id ∉ d.acked)

namespace Service

variable {σ : Type} (service : Service σ)

/-- Delivers a batch, and then again what is left of it, until a delivery is not abandoned. At most so
many rounds. -/
def redeliver : Nat → List Entry → Attempts → σ → Redelivery σ
  | 0, _, attempts, _ => ⟨[], [], attempts⟩
  | rounds + 1, entries, attempts, s =>
    let (s', attempts', d) := service.deliverTracked entries attempts s
    let handlings := service.handlings entries (some attempts) s
    if d.abandoned then
      let r := redeliver rounds (d.left entries) attempts' s'
      ⟨d :: r.deliveries, handlings ++ r.handlings, r.attempts⟩
    else ⟨[d], handlings, attempts'⟩

/-! ## The loop follows the entry at the front -/

variable {service} {e : Entry} {a a' : Attempts} {s s' : σ} {v : Verdict}

theorem deliverTracked_failed (rest : List Entry)
    (h : service.attempt e (some a) s = (s', some a', .failed)) :
    service.deliverTracked (e :: rest) a s = (s', a', { abandoned := true }) := by
  unfold deliverTracked
  rw [service.deliver_failed rest h]

theorem deliverTracked_settled (rest : List Entry)
    (h : service.attempt e (some a) s = (s', some a', v)) (hv : v.settled = true) :
    service.deliverTracked (e :: rest) a s =
      ((service.deliverTracked rest a' s').1, (service.deliverTracked rest a' s').2.1,
        (service.deliverTracked rest a' s').2.2.settle e.id v) := by
  have hcounts := (service.deliverTracked_eq rest a' s').1
  unfold deliverTracked at hcounts ⊢
  rw [service.deliver_settled rest h hv]
  generalize service.deliver rest (some a') s' = out at hcounts ⊢
  rcases out with ⟨s'', attempts | attempts, d⟩
  · -- counts that are kept do not get lost
    cases hcounts
  · rfl

/-- Settling the entry at the front leaves what the others leave. -/
theorem left_settle (rest : List Entry) (d : Delivery) (hfresh : ∀ e' ∈ rest, e'.id ≠ e.id) :
    (d.settle e.id v).left (e :: rest) = d.left rest := by
  have hgone : ¬ decide (e.id ∉ (d.settle e.id v).acked) = true := by simp [Delivery.settle]
  unfold Delivery.left
  rw [List.filter_cons, if_neg hgone]
  apply List.filter_congr
  intro e' hmem
  have hne := hfresh e' hmem
  simp [Delivery.settle, hne]

/-- If the entry at the front is settled, the loop is that of the others with it in front. -/
theorem redeliver_settled (rounds : Nat) {rest : List Entry}
    (h : service.attempt e (some a) s = (s', some a', v)) (hv : v.settled = true)
    (hfresh : ∀ e' ∈ rest, e'.id ≠ e.id) :
    service.redeliver (rounds + 1) (e :: rest) a s =
      (service.redeliver (rounds + 1) rest a' s').settle ⟨e, s, v⟩ := by
  rw [redeliver, redeliver, deliverTracked_settled rest h hv, service.handlings_cons e rest h, hv]
  rcases service.deliverTracked rest a' s' with ⟨s'', a'', d⟩
  simp only [left_settle rest d hfresh, if_true]
  cases hd : d.abandoned <;> simp [Redelivery.settle, Delivery.settle, hd]

/-- If the entry at the front failed, the loop begins its next round with the same entries. -/
theorem redeliver_failed (rounds : Nat) (rest : List Entry)
    (h : service.attempt e (some a) s = (s', some a', .failed)) :
    service.redeliver (rounds + 1) (e :: rest) a s =
      (service.redeliver rounds (e :: rest) a' s').retry ⟨e, s, .failed⟩ := by
  have hleft : ({ abandoned := true } : Delivery).left (e :: rest) = e :: rest := by
    simp [Delivery.left]
  rw [redeliver, deliverTracked_failed rest h, service.handlings_cons e rest h]
  simp [hleft, Verdict.settled, Redelivery.retry]

/-! ## What an attempt comes to -/

/-- An entry that does not fail is handled, and there is nothing to forget. -/
theorem attempt_of_good (limit : Nat) (h : (service.process e s).2 = none) :
    ∃ s', service.attempt e (some { limit }) s = (s', some { limit }, .handled) := by
  unfold attempt
  rcases hp : service.process e s with ⟨s₁, failure⟩
  rw [hp] at h
  obtain rfl : failure = none := h
  exact ⟨s₁, rfl⟩

/-- A failure below the limit is counted, and the batch abandoned. -/
theorem attempt_of_bad (limit n : Nat) (h : (service.process e s).2.isSome = true)
    (hmore : n + 1 < limit) :
    ∃ s', service.attempt e (some (.spent limit e.id n)) s =
      (s', some (.spent limit e.id (n + 1)), .failed) := by
  have hcounted : (Attempts.spent limit e.id n).fail e.id = (.spent limit e.id (n + 1), false) := by
    rw [Attempts.fail_of_more (by simpa using hmore), Attempts.counted_spent]
  unfold attempt
  rcases hp : service.process e s with ⟨s₁, failure⟩
  rw [hp] at h
  obtain ⟨cause, rfl⟩ := Option.isSome_iff_exists.mp h
  simp only [Option.map_some, hcounted]
  exact ⟨_, rfl⟩

/-- With the failure that reaches the limit the entry is dropped and its count forgotten. -/
theorem attempt_of_last (limit n : Nat) (h : (service.process e s).2.isSome = true)
    (hlast : limit ≤ n + 1) :
    ∃ s', service.attempt e (some (.spent limit e.id n)) s = (s', some { limit }, .dropped) := by
  have hforgotten : (Attempts.spent limit e.id n).fail e.id = ({ limit }, true) := by
    rw [Attempts.fail_of_last (by simpa using hlast), Attempts.clear_spent]
  unfold attempt
  rcases hp : service.process e s with ⟨s₁, failure⟩
  rw [hp] at h
  obtain ⟨cause, rfl⟩ := Option.isSome_iff_exists.mp h
  simp only [Option.map_some, hforgotten]
  exact ⟨_, rfl⟩

end Service

/-! ## What the loop comes to -/

/-- How often an entry is attempted: a poisonous one as often as the limit says. -/
def tries (poison : Entry → Bool) (limit : Nat) (e : Entry) : Nat :=
  if poison e then limit else 1

/-- The deliveries a batch takes: all attempts of the poisonous entries but the last of each end one,
and the last delivery is not abandoned. -/
def deliveriesNeeded (poison : Entry → Bool) (limit : Nat) (entries : List Entry) : Nat :=
  entries.countP poison * (limit - 1) + 1

/-- The loop has ended with every entry acknowledged, where `spent` attempts of the entry at the front
had failed before it began. -/
structure Drains {σ : Type} (poison : Entry → Bool) (limit spent : Nat) (entries : List Entry)
    (r : Redelivery σ) : Prop where
  length : r.deliveries.length + spent = deliveriesNeeded poison limit entries
  /-- Every delivery but the last was abandoned, and that was not. -/
  ended : ∃ before last, r.deliveries = before ++ [last] ∧ last.abandoned = false ∧
    ∀ d ∈ before, d.abandoned = true
  acked : r.deliveries.flatMap (·.acked) = entries.map (·.id)
  dropped : r.deliveries.flatMap (·.dropped) = (entries.filter poison).map (·.id)
  /-- Nothing else is attempted. -/
  among : ∀ h ∈ r.handlings, h.entry ∈ entries
  tried : ∀ e ∈ entries, r.handlings.countP (·.entry = e) +
    (if entries.head? = some e then spent else 0) = tries poison limit e
  forgotten : r.attempts = { limit }

namespace Drains

variable {σ : Type} {poison : Entry → Bool} {limit : Nat} {e : Entry} {rest : List Entry}
  {r : Redelivery σ}

theorem nil (poison : Entry → Bool) (limit : Nat) :
    Drains poison limit 0 [] (⟨[{}], [], { limit }⟩ : Redelivery σ) where
  length := by simp [deliveriesNeeded]
  ended := ⟨[], {}, rfl, rfl, by simp⟩
  acked := rfl
  dropped := rfl
  among := by simp
  tried := by simp
  forgotten := rfl

/-- An entry in front that is settled in the first round: it is no poison, or this was its last
attempt. -/
theorem settle (hr : Drains poison limit 0 rest r) (hfresh : ∀ e' ∈ rest, e'.id ≠ e.id) (s : σ)
    {v : Verdict} (hdropped : v = .dropped ↔ poison e = true) {spent : Nat}
    (hspent : spent + 1 = tries poison limit e) :
    Drains poison limit spent (e :: rest) (r.settle ⟨e, s, v⟩) := by
  have hne : e ∉ rest := fun hmem => hfresh e hmem rfl
  obtain ⟨before, last, heq, hlast, hbefore⟩ := hr.ended
  -- the first delivery of the others, which the entry is put in front of
  obtain ⟨d, more, hmore⟩ : ∃ d more, r.deliveries = d :: more := by
    rw [heq]
    cases before with
    | nil => exact ⟨last, [], rfl⟩
    | cons d before => exact ⟨d, before ++ [last], rfl⟩
  have hlength := hr.length
  have hacked := hr.acked
  have hdrops := hr.dropped
  rw [hmore] at hlength hacked hdrops heq
  refine ⟨?_, ?_, ?_, ?_, ?_, ?_, hr.forgotten⟩
  · unfold deliveriesNeeded at hlength ⊢
    unfold tries at hspent
    rw [List.countP_cons]
    simp only [Redelivery.settle, hmore, List.modifyHead_cons, List.length_cons] at hlength ⊢
    cases hp : poison e with
    | false => simp [hp] at hspent ⊢; omega
    | true =>
      have hlimit : limit - 1 = spent := by simp [hp] at hspent; omega
      simp only [if_true, Nat.add_mul, hlimit] at hlength ⊢
      omega
  · simp only [Redelivery.settle, hmore, List.modifyHead_cons]
    cases before with
    | nil =>
      obtain ⟨rfl, rfl⟩ := List.cons.inj heq
      exact ⟨[], _, rfl, hlast, by simp⟩
    | cons d' before =>
      obtain ⟨rfl, rfl⟩ := List.cons.inj heq
      refine ⟨d.settle e.id v :: before, last, rfl, hlast, ?_⟩
      intro d' hmem
      rcases List.mem_cons.mp hmem with rfl | hmem
      · exact hbefore d List.mem_cons_self
      · exact hbefore d' (List.mem_cons_of_mem _ hmem)
  · simp only [Redelivery.settle, hmore, List.modifyHead_cons, List.flatMap_cons, Delivery.settle,
      List.map_cons, List.cons_append] at hacked ⊢
    rw [hacked]
  · simp only [Redelivery.settle, hmore, List.modifyHead_cons, List.flatMap_cons,
      Delivery.settle] at hdrops ⊢
    cases hp : poison e with
    | false =>
      have hv : v ≠ .dropped := fun h => by simp [hdropped.mp h] at hp
      rw [if_neg hv, List.filter_cons_of_neg (by simp [hp]), hdrops]
    | true =>
      rw [if_pos (hdropped.mpr hp), List.filter_cons_of_pos hp, List.cons_append, hdrops,
        List.map_cons]
  · intro h hmem
    rcases List.mem_cons.mp hmem with rfl | hmem
    · exact List.mem_cons_self
    · exact List.mem_cons_of_mem _ (hr.among h hmem)
  · intro e' hmem
    have hsettle : (r.settle ⟨e, s, v⟩).handlings = ⟨e, s, v⟩ :: r.handlings := rfl
    rw [hsettle, List.countP_cons]
    rcases List.mem_cons.mp hmem with rfl | hmem
    · -- the others' handlings are none of this entry
      have hnone : r.handlings.countP (·.entry = e') = 0 := by
        rw [List.countP_eq_zero]
        intro h hh heq
        exact hne (of_decide_eq_true heq ▸ hr.among h hh)
      simp [hnone]
      omega
    · have hold := hr.tried e' hmem
      have hdiff : e ≠ e' := fun h => hne (h ▸ hmem)
      simpa [hdiff] using hold

/-- A round in front in which the entry at the front failed. -/
theorem retry {spent : Nat} (hr : Drains poison limit (spent + 1) (e :: rest) r) (s : σ) :
    Drains poison limit spent (e :: rest) (r.retry ⟨e, s, .failed⟩) := by
  have hlength := hr.length
  obtain ⟨before, last, heq, hlast, hbefore⟩ := hr.ended
  refine ⟨?_, ?_, hr.acked, hr.dropped, ?_, ?_, hr.forgotten⟩
  · simp only [Redelivery.retry, List.length_cons]
    omega
  · refine ⟨{ abandoned := true } :: before, last, ?_, hlast, ?_⟩
    · simp only [Redelivery.retry, heq, List.cons_append]
    · intro d hmem
      rcases List.mem_cons.mp hmem with rfl | hmem
      · rfl
      · exact hbefore d hmem
  · intro h hmem
    rcases List.mem_cons.mp hmem with rfl | hmem
    · exact List.mem_cons_self
    · exact hr.among h hmem
  · intro e' hmem
    have hold := hr.tried e' hmem
    have hretry : (r.retry ⟨e, s, .failed⟩).handlings = ⟨e, s, .failed⟩ :: r.handlings := rfl
    rw [hretry, List.countP_cons]
    by_cases he : e = e'
    · simp only [he, List.head?_cons, decide_true, if_true] at hold ⊢
      omega
    · simp only [List.head?_cons, Option.some.injEq, he, decide_false, Bool.false_eq_true,
        if_false] at hold ⊢
      exact hold

end Drains

section Poison

variable {σ : Type} {service : Service σ} {poison : Entry → Bool} {limit : Nat}

/-- A poisonous entry at the front is attempted until it is dropped, and the round in which it is
goes on with the others. -/
theorem redeliver_poisonous {e : Entry} {rest : List Entry}
    (hrest : ∀ rounds s, deliveriesNeeded poison limit rest ≤ rounds →
      Drains poison limit 0 rest (service.redeliver rounds rest { limit } s))
    (hpoison : ∀ s, (service.process e s).2.isSome = true) (hp : poison e = true)
    (hfresh : ∀ e' ∈ rest, e'.id ≠ e.id) (left : Nat) :
    ∀ spent rounds s, spent + left + 1 = limit →
      deliveriesNeeded poison limit rest + left ≤ rounds →
      Drains poison limit spent (e :: rest)
        (service.redeliver rounds (e :: rest) (.spent limit e.id spent) s) := by
  -- on the attempts it has left
  induction left with
  | zero =>
    intro spent rounds s hspent hrounds
    obtain ⟨rounds, rfl⟩ : ∃ n, rounds = n + 1 := by
      unfold deliveriesNeeded at hrounds
      exact ⟨rounds - 1, by omega⟩
    obtain ⟨s', hattempt⟩ := Service.attempt_of_last limit spent (hpoison s) (by omega)
    rw [Service.redeliver_settled rounds hattempt rfl hfresh]
    have htries : spent + 1 = tries poison limit e := by
      rw [tries, if_pos hp]
      omega
    exact (hrest (rounds + 1) s' hrounds).settle hfresh s (by simp [hp]) htries
  | succ left ih =>
    intro spent rounds s hspent hrounds
    obtain ⟨rounds, rfl⟩ : ∃ n, rounds = n + 1 := ⟨rounds - 1, by omega⟩
    obtain ⟨s', hattempt⟩ := Service.attempt_of_bad limit spent (hpoison s) (by omega)
    rw [Service.redeliver_failed rounds rest hattempt]
    exact (ih (spent + 1) rounds s' (by omega) (by omega)).retry s

/-- The loop drains every batch in which each entry always fails or never does. -/
theorem redeliver_drains (hlimit : 0 < limit) (entries : List Entry)
    (hids : (entries.map (·.id)).Nodup)
    (hpoison : ∀ e ∈ entries, ∀ s, (service.process e s).2.isSome = poison e) :
    ∀ rounds s, deliveriesNeeded poison limit entries ≤ rounds →
      Drains poison limit 0 entries (service.redeliver rounds entries { limit } s) := by
  induction entries with
  | nil =>
    intro rounds s hrounds
    obtain ⟨rounds, rfl⟩ : ∃ n, rounds = n + 1 := by
      unfold deliveriesNeeded at hrounds
      exact ⟨rounds - 1, by omega⟩
    exact Drains.nil poison limit
  | cons e rest ih =>
    rw [List.map_cons, List.nodup_cons] at hids
    have hfresh : ∀ e' ∈ rest, e'.id ≠ e.id := by
      intro e' hmem heq
      exact hids.1 (heq ▸ List.mem_map_of_mem hmem)
    have hrest := ih hids.2 fun e' hmem => hpoison e' (List.mem_cons_of_mem _ hmem)
    have hfront := hpoison e List.mem_cons_self
    intro rounds s hrounds
    cases hp : poison e with
    | true =>
      have hneeded : deliveriesNeeded poison limit rest + (limit - 1) ≤ rounds := by
        unfold deliveriesNeeded at hrounds ⊢
        rw [List.countP_cons_of_pos hp, Nat.add_mul] at hrounds
        omega
      exact redeliver_poisonous hrest (fun s => (hfront s).trans hp) hp hfresh (limit - 1) 0 rounds
        s (by omega) hneeded
    | false =>
      have hneeded : deliveriesNeeded poison limit rest ≤ rounds := by
        unfold deliveriesNeeded at hrounds ⊢
        rwa [List.countP_cons_of_neg (by simp [hp])] at hrounds
      obtain ⟨rounds, rfl⟩ : ∃ n, rounds = n + 1 := by
        unfold deliveriesNeeded at hneeded
        exact ⟨rounds - 1, by omega⟩
      have hgood : (service.process e s).2 = none := by simpa [hp] using hfront s
      obtain ⟨s', hattempt⟩ := Service.attempt_of_good limit hgood
      rw [Service.redeliver_settled rounds hattempt rfl hfresh]
      exact (hrest (rounds + 1) s' hneeded).settle hfresh s (by simp [hp]) (by simp [tries, hp])

/-- **Poison never wedges the queue.** Let each entry of a batch, by itself, always fail or never do.
Delivered again and again with a limit on failed attempts, the batch takes exactly one delivery more
than the poisonous entries have attempts to spare, however many rounds are allowed beyond that: every
delivery but the last is abandoned and the last is not. In all of them together every entry is
acknowledged once and in order, exactly the poisonous ones are dropped, in order, each of those was
attempted as often as the limit says and each other entry once, and no count is left. -/
theorem poison_drains (service : Service σ) (limit : Nat) (entries : List Entry) (s : σ)
    (poison : Entry → Bool) (hids : (entries.map (·.id)).Nodup)
    (hpoison : ∀ e ∈ entries, ∀ s, (service.process e s).2.isSome = poison e) (rounds : Nat)
    (hrounds : entries.countP poison * (max limit 1 - 1) + 1 ≤ rounds) :
    let r := service.redeliver rounds entries (.ofLimit limit) s
    r.deliveries.length = entries.countP poison * (max limit 1 - 1) + 1 ∧
    (∃ before last, r.deliveries = before ++ [last] ∧ last.abandoned = false ∧
      ∀ d ∈ before, d.abandoned = true) ∧
    r.deliveries.flatMap (·.acked) = entries.map (·.id) ∧
    r.deliveries.flatMap (·.dropped) = (entries.filter poison).map (·.id) ∧
    (∀ e ∈ entries, r.handlings.countP (·.entry = e) = if poison e then max limit 1 else 1) ∧
    (∀ h ∈ r.handlings, h.entry ∈ entries) ∧
    r.attempts.pending = 0 := by
  intro r
  have hlimit : 0 < max limit 1 := by omega
  have hdrains := redeliver_drains hlimit entries hids hpoison rounds s hrounds
  refine ⟨hdrains.length, hdrains.ended, hdrains.acked, hdrains.dropped, ?_, hdrains.among, ?_⟩
  · intro e hmem
    have htried := hdrains.tried e hmem
    rwa [ite_self, Nat.add_zero] at htried
  · show (service.redeliver rounds entries { limit := max limit 1 } s).attempts.pending = 0
    rw [hdrains.forgotten]
    rfl

end Poison

/-! ## A batch with poison -/

/-- An entry whose metadata is no JSON. -/
def malformed (id : String) : Entry :=
  ⟨id, [("operation", "thing.create"), ("metadata", "oops")]⟩

/-- An entry that a channel was removed. -/
def channelGone (id : String) : Entry :=
  ⟨id, [("operation", "channel.remove"), ("id", "c")]⟩

/-- Two poisonous entries and one between them that is none. -/
def mixed : List Entry :=
  [malformed "1-0", channelGone "2-0", malformed "3-0"]

/-- What is no JSON is never handled, and the end of a channel always is. -/
theorem process_mixed : ∀ e ∈ mixed, ∀ s : Adapter LogPublisher,
    (Adapter.service.process e s).2.isSome = decide (e ≠ channelGone "2-0") := by
  intro e hmem s
  simp only [mixed, List.mem_cons, List.not_mem_nil, or_false] at hmem
  rcases hmem with rfl | rfl | rfl
  · rfl
  · rfl
  · rfl

/-- With two attempts each, the malformed entries cost a delivery more each, and the one between them
is handled once. -/
theorem poison_drains_malformed :
    let r := Adapter.service.redeliver 9 mixed (.ofLimit 2)
      ({ publisher := {} } : Adapter LogPublisher)
    (mixed.map (·.id)).Nodup ∧ mixed.countP (· ≠ channelGone "2-0") * (max 2 1 - 1) + 1 ≤ 9 ∧
    r.deliveries.length = 3 ∧ r.deliveries.flatMap (·.acked) = ["1-0", "2-0", "3-0"] ∧
    r.deliveries.flatMap (·.dropped) = ["1-0", "3-0"] ∧
    r.handlings.countP (·.entry = malformed "1-0") = 2 ∧ r.attempts.pending = 0 := by
  have hids : (mixed.map (·.id)).Nodup := by decide
  have hrounds : mixed.countP (· ≠ channelGone "2-0") * (max 2 1 - 1) + 1 ≤ 9 := by decide
  obtain ⟨hlength, -, hacked, hdropped, htried, -, hpending⟩ :=
    poison_drains Adapter.service 2 mixed ({ publisher := {} } : Adapter LogPublisher)
      (· ≠ channelGone "2-0") hids process_mixed 9 hrounds
  exact ⟨hids, hrounds, hlength, hacked, hdropped, htried _ (by decide), hpending⟩

end TableFeed
