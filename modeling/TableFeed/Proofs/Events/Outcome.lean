import TableFeed.Proofs.Events.Redelivery

/-!
# The shape of an outcome

What a delivery reports of a batch is related to what was done. A front part of the entries is
acknowledged; the batch is abandoned exactly if that is not all of them, and then one entry more was
processed, which failed. Nothing behind that entry gets to the service.

* **`Service.Attempted`** — all that an attempt at one entry can come to.
* **`Service.Passes`**, **`Service.recorded`** — what was processed, and what a service was asked for
  meanwhile, apart from what a delivery says of it.
* **`deliver_shape`**, **`deliver_recorded`** — what a delivery says is what was processed and asked
  for.
* **`deliver_counted`** — the crux: the counts behind a batch, entry by entry. As the ids are different,
  the count that an entry meets is the one from before the batch.
* **`batch_shape`** — all of it, with counts and without.
-/

namespace TableFeed

/-! ## Counts that can arise -/

namespace Attempts

/-- The failures on record for an entry, if there is a record of it. -/
def recorded? (a : Attempts) (id : String) : Option Nat :=
  a.failures.lookup id

/-- Counts that failures and successes lead to, in any order, from none. -/
inductive Reachable (limit : Nat) : Attempts → Prop
  | start : Reachable limit (.ofLimit limit)
  | fail {a : Attempts} (h : Reachable limit a) (id : String) : Reachable limit (a.fail id).1
  | clear {a : Attempts} (h : Reachable limit a) (id : String) : Reachable limit (a.clear id)

variable {a : Attempts}

theorem recorded?_clear (a : Attempts) (id i : String) :
    (a.clear id).recorded? i = if i = id then none else a.recorded? i :=
  lookup_removed id i a.failures

theorem recorded?_counted (a : Attempts) (id i : String) :
    (a.counted id).recorded? i = if i = id then some (a.count id + 1) else a.recorded? i := by
  show ((id, a.count id + 1) :: (a.clear id).failures).lookup i = _
  rw [lookup_cons]
  by_cases h : i = id
  · rw [if_pos h, if_pos h]
  · rw [if_neg h, if_neg h, ← recorded?, recorded?_clear, if_neg h]

/-- Every count is below the limit: the failure that would reach it is not counted any more. -/
def Bounded (a : Attempts) : Prop :=
  ∀ id, a.count id < a.limit

theorem Bounded.clear (h : a.Bounded) (id : String) : (a.clear id).Bounded := by
  intro i
  have hi := h i
  rw [count_clear, clear_limit]
  split <;> omega

theorem Bounded.fail (h : a.Bounded) (id : String) : (a.fail id).1.Bounded := by
  by_cases hlast : a.limit ≤ a.count id + 1
  · rw [fail_of_last hlast]
    exact h.clear id
  · rw [fail_of_more hlast]
    intro i
    have hi := h i
    rw [count_counted, counted_limit]
    split <;> omega

theorem Reachable.bounded {limit : Nat} (h : a.Reachable limit) : a.Bounded := by
  induction h with
  | start => exact fun _ => Nat.lt_of_lt_of_le Nat.zero_lt_one (Nat.le_max_right limit 1)
  | fail _ id ih => exact ih.fail id
  | clear _ id ih => exact ih.clear id

end Attempts

/-! ## What a service is asked for -/

/-- A call of a service, with its arguments. -/
inductive Asked where
  | createThing (id channel metadata : String)
  | updateThing (id channel metadata : String)
  | removeThing (id : String)
  | createChannel (id name : String)
  | removeChannel (id : String)
  | publish (batch : Batch)

/-- What the processing of an entry asks a service for. -/
def Entry.asks (e : Entry) : List Asked :=
  match Event.decode e with
  | .ok (.thingCreate p) | .ok (.thingUpdate p) => [.createThing p.id p.channel p.source]
  | .ok (.thingRemove id) => [.removeThing id]
  | .ok (.channelRemove id) => [.removeChannel id]
  | _ => []

/-- How many entries of its batch were processed. -/
def Delivery.reach (d : Delivery) : Nat :=
  d.acked.length + if d.abandoned then 1 else 0

namespace Service

variable {σ : Type}

/-- A call that is put on record. -/
def record (asked : Asked) (call : σ → σ × Option Error) (s : σ × List Asked) :
    (σ × List Asked) × Option Error :=
  (((call s.1).1, s.2 ++ [asked]), (call s.1).2)

/-- The service that keeps a record of the calls that reach it, first to last. -/
def recorded (service : Service σ) : Service (σ × List Asked) where
  createThing id channel metadata :=
    record (.createThing id channel metadata) (service.createThing id channel metadata)
  updateThing id channel metadata :=
    record (.updateThing id channel metadata) (service.updateThing id channel metadata)
  removeThing id := record (.removeThing id) (service.removeThing id)
  createChannel id name := record (.createChannel id name) (service.createChannel id name)
  removeChannel id := record (.removeChannel id) (service.removeChannel id)
  publish batch := record (.publish batch) (service.publish batch)
  note line s := (service.note line s.1, s.2)

/-! ## One entry -/

/-- All that an attempt at an entry can come to. A failure is logged, and it is counted where failures
are, up to the one that reaches the limit. -/
inductive Attempted (service : Service σ) (e : Entry) (s : σ) :
    Option Attempts → σ × Option Attempts × Verdict → Prop
  | handled {attempts : Option Attempts} {s' : σ} (hprocess : service.process e s = (s', none)) :
    Attempted service e s attempts (s', attempts.map (·.clear e.id), .handled)
  | dropped {a : Attempts} {s' : σ} {cause : Error} (line : LogLine)
    (hprocess : service.process e s = (s', some cause)) (hlast : a.limit ≤ a.count e.id + 1) :
    Attempted service e s (some a) (service.note line s', some (a.clear e.id), .dropped)
  | failed {attempts : Option Attempts} {s' : σ} {cause : Error} (line : LogLine)
    (hprocess : service.process e s = (s', some cause))
    (hmore : ∀ a ∈ attempts, ¬ a.limit ≤ a.count e.id + 1) :
    Attempted service e s attempts
      (service.note line s', attempts.map (·.counted e.id), .failed)

variable (service : Service σ)

theorem attempt_cases (e : Entry) (attempts : Option Attempts) (s : σ) :
    service.Attempted e s attempts (service.attempt e attempts s) := by
  unfold attempt
  rcases hp : service.process e s with ⟨s', _ | cause⟩
  · exact .handled hp
  · cases attempts with
    | none => exact .failed _ hp fun a h => nomatch h
    | some a =>
      by_cases hlast : a.limit ≤ a.count e.id + 1
      · simp only [Option.map_some, Attempts.fail_of_last hlast]
        exact .dropped _ hp hlast
      · simp only [Option.map_some, Attempts.fail_of_more hlast]
        show service.Attempted e s (some a) (_, (some a).map (·.counted e.id), .failed)
        refine .failed _ hp fun b hb => ?_
        rwa [← Option.some.inj hb]

/-- Processing an entry asks the service for what the entry asks for, and for nothing else. -/
theorem process_recorded (e : Entry) (s : σ) (asked : List Asked) :
    service.recorded.process e (s, asked) =
      (((service.process e s).1, asked ++ e.asks), (service.process e s).2) := by
  unfold process Entry.asks
  cases Event.decode e with
  | error cause =>
    cases cause <;> simp [recorded]
  | ok event =>
    cases event with
    | thingRemove id =>
      simp only [handle, recorded, record]
      rcases service.removeThing id s with ⟨s', _ | cause⟩
      · rfl
      · cases h : cause.isNotFound <;> simp [h]
    | ignored operation => simp [handle]
    | _ => rfl

theorem attempt_recorded (e : Entry) (attempts : Option Attempts) (s : σ) (asked : List Asked) :
    service.recorded.attempt e attempts (s, asked) =
      (((service.attempt e attempts s).1, asked ++ e.asks), (service.attempt e attempts s).2) := by
  unfold attempt
  rw [process_recorded]
  rcases service.process e s with ⟨s', _ | cause⟩
  · rfl
  · simp only
    split <;> simp_all [recorded]

/-! ## One batch -/

/-- Entries are processed one after the other, each in the state that those before it left, and each
failure is logged. -/
inductive Passes : σ → List (Entry × Option Error) → σ → Prop
  | done (s : σ) : Passes s [] s
  | handled {s s' t : σ} {e : Entry} {rest : List (Entry × Option Error)}
    (hprocess : service.process e s = (s', none)) (hrest : Passes s' rest t) :
    Passes s ((e, none) :: rest) t
  | failed {s s' t : σ} {e : Entry} {rest : List (Entry × Option Error)} {cause : Error}
    (line : LogLine) (hprocess : service.process e s = (s', some cause))
    (hrest : Passes (service.note line s') rest t) : Passes s ((e, some cause) :: rest) t

/-- What a delivery says of a batch, from one state to another. -/
structure Shape (entries : List Entry) (s t : σ) (d : Delivery) : Prop where
  /-- The first entries are acknowledged, in order. -/
  acked : d.acked <+: entries.map (·.id)
  dropped : List.Sublist d.dropped d.acked
  abandoned : d.abandoned = true ↔ d.acked.length < entries.length
  /-- Those were processed, and one more if the batch was abandoned. Of these, the ones that are
  acknowledged and not dropped succeeded. -/
  processed : ∃ passed, service.Passes s passed t ∧ passed.map (·.1) = entries.take d.reach ∧
    ∀ p ∈ passed, p.2 = none ↔ p.1.id ∈ d.acked ∧ p.1.id ∉ d.dropped

variable {service}

theorem reach_settle (d : Delivery) (id : String) (v : Verdict) :
    (d.settle id v).reach = d.reach + 1 := by
  show d.acked.length + 1 + _ = d.acked.length + _ + 1
  exact Nat.add_right_comm _ _ _

theorem dropped_settle (d : Delivery) (id : String) (v : Verdict) :
    (d.settle id v).dropped = if v = .dropped then id :: d.dropped else d.dropped :=
  rfl

theorem Shape.dropped_subset {entries : List Entry} {s t : σ} {d : Delivery}
    (h : service.Shape entries s t d) : ∀ id ∈ d.dropped, id ∈ entries.map (·.id) :=
  fun _ hid => h.acked.subset (h.dropped.subset hid)

/-- A batch that ends with its first entry. -/
theorem shape_failed {e : Entry} {s s' : σ} {cause : Error} (rest : List Entry) (line : LogLine)
    (hprocess : service.process e s = (s', some cause)) :
    service.Shape (e :: rest) s (service.note line s') { abandoned := true } where
  acked := List.nil_prefix
  dropped := .slnil
  abandoned := iff_of_true rfl (Nat.zero_lt_succ _)
  processed := ⟨[(e, some cause)], .failed line hprocess (.done _), rfl, by simp⟩

/-- A batch that goes on behind its first entry. The entry was dropped if it failed. -/
theorem Shape.settle {e : Entry} {rest : List Entry} {s s' t : σ} {d : Delivery} {v : Verdict}
    {failure : Option Error} (h : service.Shape rest s' t d)
    (hfresh : e.id ∉ rest.map (·.id)) (hverdict : failure = none ↔ v ≠ .dropped)
    (hpass : ∀ {passed}, service.Passes s' passed t → service.Passes s ((e, failure) :: passed) t) :
    service.Shape (e :: rest) s t (d.settle e.id v) := by
  obtain ⟨passed, hpassed, hentries, hsucceeded⟩ := h.processed
  have hnew : e.id ∉ d.dropped := fun hid => hfresh (h.dropped_subset _ hid)
  refine ⟨?_, ?_, ?_, (e, failure) :: passed, hpass hpassed, ?_, ?_⟩
  · exact List.prefix_cons_inj _ |>.mpr h.acked
  · rw [dropped_settle]
    split
    · exact h.dropped.cons_cons e.id
    · exact h.dropped.cons e.id
  · exact h.abandoned.trans (by simp [Delivery.settle])
  · rw [reach_settle, List.take_succ_cons, List.map_cons, hentries]
  · intro p hp
    rcases List.mem_cons.mp hp with rfl | hp
    · rw [hverdict, dropped_settle]
      by_cases hv : v = .dropped
      · simp [hv, Delivery.settle]
      · simp [hv, Delivery.settle, hnew]
    · -- an entry behind has another id
      have hmem : p.1.id ∈ rest.map (·.id) := by
        refine List.mem_map_of_mem (List.mem_of_mem_take (i := d.reach) ?_)
        rw [← hentries]
        exact List.mem_map_of_mem hp
      have hne : p.1.id ≠ e.id := fun heq => hfresh (heq ▸ hmem)
      rw [hsucceeded p hp, dropped_settle]
      split <;> simp [Delivery.settle, hne]

variable (service) in
/-- What a delivery says is what was processed, with counts or without. -/
theorem deliver_shape (entries : List Entry) (hids : (entries.map (·.id)).Nodup)
    (attempts : Option Attempts) (s : σ) :
    service.Shape entries s (service.deliver entries attempts s).1
      (service.deliver entries attempts s).2.2 := by
  induction entries generalizing attempts s with
  | nil => exact ⟨List.nil_prefix, .slnil, by simp [deliver], [], .done s, rfl, by simp⟩
  | cons e rest ih =>
    rw [List.map_cons, List.nodup_cons] at hids
    have hattempt := service.attempt_cases e attempts s
    rcases hout : service.attempt e attempts s with ⟨s', attempts', v⟩
    rw [hout] at hattempt
    cases hattempt with
    | handled hprocess =>
      rw [service.deliver_settled rest hout rfl]
      exact (ih hids.2 _ _).settle hids.1 (by simp) fun h => .handled hprocess h
    | dropped line hprocess =>
      rw [service.deliver_settled rest hout rfl]
      exact (ih hids.2 _ _).settle hids.1 (by simp) fun h => .failed line hprocess h
    | failed line hprocess =>
      rw [service.deliver_failed rest hout]
      exact shape_failed rest line hprocess

variable (service) in
/-- A delivery asks the service for what the entries ask for that it processed, each once and in order.
That this is recorded changes nothing else. -/
theorem deliver_recorded (entries : List Entry) (attempts : Option Attempts) (s : σ)
    (asked : List Asked) :
    service.recorded.deliver entries attempts (s, asked) =
      (((service.deliver entries attempts s).1,
        asked ++ (entries.take (service.deliver entries attempts s).2.2.reach).flatMap Entry.asks),
        (service.deliver entries attempts s).2) := by
  induction entries generalizing attempts s asked with
  | nil => simp [deliver]
  | cons e rest ih =>
    have hrecorded := service.attempt_recorded e attempts s asked
    rcases hout : service.attempt e attempts s with ⟨s', attempts', v⟩
    rw [hout] at hrecorded
    cases hv : v.settled with
    | false =>
      obtain rfl := Verdict.settled_eq_false.mp hv
      rw [service.recorded.deliver_failed rest hrecorded, service.deliver_failed rest hout]
      simp [Delivery.reach]
    | true =>
      rw [service.recorded.deliver_settled rest hrecorded hv, service.deliver_settled rest hout hv,
        ih, reach_settle, List.take_succ_cons, List.flatMap_cons, List.append_assoc]

end Service

/-! ## Counts behind a batch -/

/-- The counts behind a batch, by what a delivery says of its entries. -/
structure Counted (entries : List Entry) (before after : Attempts) (d : Delivery) : Prop where
  limit : after.limit = before.limit
  succeeded : ∀ id ∈ d.acked, id ∉ d.dropped → after.recorded? id = none
  dropped : ∀ id ∈ d.dropped, before.count id + 1 = before.limit ∧ after.recorded? id = none
  /-- The entry that the batch was abandoned with has failed once more, and may fail again. -/
  failed : d.abandoned = true → ∃ e, entries[d.acked.length]? = some e ∧
    after.recorded? e.id = some (before.count e.id + 1) ∧ before.count e.id + 1 < before.limit
  others : ∀ id, id ∉ (entries.take d.reach).map (·.id) →
    after.recorded? id = before.recorded? id

section Counts

variable {e : Entry} {rest : List Entry} {a after : Attempts} {d : Delivery}

theorem counted_nil (a : Attempts) : Counted [] a a {} where
  limit := rfl
  succeeded := by simp
  dropped := by simp
  failed h := nomatch h
  others _ _ := rfl

/-- The first entry failed, and its failure is counted. -/
theorem counted_failed (rest : List Entry) (hmore : ¬ a.limit ≤ a.count e.id + 1) :
    Counted (e :: rest) a (a.counted e.id) { abandoned := true } where
  limit := a.counted_limit e.id
  succeeded := by simp
  dropped := by simp
  failed _ := ⟨e, rfl, by rw [Attempts.recorded?_counted, if_pos rfl], by omega⟩
  others id hid := by
    have hne : id ≠ e.id := by simpa [Delivery.reach] using hid
    rw [Attempts.recorded?_counted, if_neg hne]

/-- The record of the first entry is gone, and nothing behind it brings that back. -/
theorem Counted.settle {v : Verdict} (h : Counted rest (a.clear e.id) after d)
    (hfresh : e.id ∉ rest.map (·.id)) (hdropped : ∀ id ∈ d.dropped, id ∈ rest.map (·.id))
    (hlast : v = .dropped → a.count e.id + 1 = a.limit) :
    Counted (e :: rest) a after (d.settle e.id v) := by
  have hgone : after.recorded? e.id = none := by
    rw [h.others e.id fun hid => hfresh ((List.take_sublist _ _).map _ |>.subset hid),
      Attempts.recorded?_clear, if_pos rfl]
  have hbefore : ∀ {id}, id ≠ e.id → (a.clear e.id).count id = a.count id := by
    intro id hne
    rw [Attempts.count_clear, if_neg hne]
  have hother : ∀ {id}, id ∈ rest.map (·.id) → id ≠ e.id := fun hid heq => hfresh (heq ▸ hid)
  refine ⟨h.limit, ?_, ?_, ?_, ?_⟩
  · intro id hid hkept
    rw [Service.dropped_settle] at hkept
    rcases List.mem_cons.mp hid with rfl | hid
    · exact hgone
    · refine h.succeeded id hid fun hmem => hkept ?_
      split
      · exact List.mem_cons_of_mem _ hmem
      · exact hmem
  · intro id hid
    rw [Service.dropped_settle] at hid
    have hrest : ∀ id ∈ d.dropped, a.count id + 1 = a.limit ∧ after.recorded? id = none := by
      intro id hid
      have hdrop := h.dropped id hid
      rwa [hbefore (hother (hdropped id hid)), Attempts.clear_limit] at hdrop
    split at hid
    · rename_i hv
      rcases List.mem_cons.mp hid with rfl | hid
      · exact ⟨hlast hv, hgone⟩
      · exact hrest id hid
    · exact hrest id hid
  · intro habandoned
    obtain ⟨e', hat, hrecord, hmore⟩ := h.failed habandoned
    have hne := hother (List.mem_map_of_mem (List.mem_of_getElem? hat))
    rw [hbefore hne] at hrecord hmore
    exact ⟨e', hat, hrecord, hmore⟩
  · intro id hid
    rw [Service.reach_settle, List.take_succ_cons, List.map_cons, List.mem_cons, not_or] at hid
    rw [h.others id hid.2, Attempts.recorded?_clear, if_neg hid.1]

variable {σ : Type} {service : Service σ}

variable (service) in
/-- The counts behind a batch are as what was delivered says. -/
theorem deliver_counted (entries : List Entry) (hids : (entries.map (·.id)).Nodup)
    (hbounded : a.Bounded) (s : σ) :
    ∃ after, (service.deliver entries (some a) s).2.1 = some after ∧
      Counted entries a after (service.deliver entries (some a) s).2.2 := by
  induction entries generalizing a s with
  | nil => exact ⟨a, rfl, counted_nil a⟩
  | cons e rest ih =>
    rw [List.map_cons, List.nodup_cons] at hids
    have hattempt := service.attempt_cases e (some a) s
    rcases hout : service.attempt e (some a) s with ⟨s', attempts', v⟩
    rw [hout] at hattempt
    cases hattempt with
    | handled hprocess =>
      rw [service.deliver_settled rest hout rfl]
      obtain ⟨after, hafter, hcounted⟩ := ih hids.2 (hbounded.clear e.id) s'
      exact ⟨after, hafter, hcounted.settle hids.1
        (service.deliver_shape rest hids.2 _ _).dropped_subset (by simp)⟩
    | dropped line hprocess hlast =>
      rw [service.deliver_settled rest hout rfl]
      obtain ⟨after, hafter, hcounted⟩ := ih hids.2 (hbounded.clear e.id) _
      have hlimit := hbounded e.id
      exact ⟨after, hafter, hcounted.settle hids.1
        (service.deliver_shape rest hids.2 _ _).dropped_subset fun _ => by omega⟩
    | failed line hprocess hmore =>
      rw [service.deliver_failed rest hout]
      exact ⟨a.counted e.id, rfl, counted_failed rest (hmore a rfl)⟩

/-- Without counts nothing is dropped. -/
theorem deliver_undropped (entries : List Entry) (s : σ) :
    (service.deliver entries none s).2.2.dropped = [] := by
  induction entries generalizing s with
  | nil => rfl
  | cons e rest ih =>
    have hattempt := service.attempt_cases e none s
    rcases hout : service.attempt e none s with ⟨s', attempts', v⟩
    rw [hout] at hattempt
    cases hattempt with
    | handled hprocess =>
      rw [service.deliver_settled rest hout rfl]
      exact ih s'
    | failed line hprocess => rw [service.deliver_failed rest hout]

theorem deliverTracked_of {entries : List Entry} {s t : σ}
    (h : service.deliver entries (some a) s = (t, some after, d)) :
    service.deliverTracked entries a s = (t, after, d) := by
  unfold Service.deliverTracked
  rw [h]

/-- **The shape of an outcome.** Let a batch of entries with different ids be delivered to a service,
with failures counted, from any counts that can arise, or without counts. A front part of the batch is
acknowledged, and the entries that were dropped are among those. The batch was abandoned exactly if that
is not all of it, and then the entry behind that part was processed too and failed. No other entry was,
and the service was asked for what these entries ask for, once each and in order. Entries that are
acknowledged and not dropped succeeded. No record is left of an entry that is acknowledged; one that is
dropped had one failure less than the limit; the entry that the batch was abandoned with has one more,
which is still below the limit, and every other record is what it was. Without counts none is dropped. -/
theorem batch_shape (service : Service σ) (entries : List Entry)
    (hids : (entries.map (·.id)).Nodup) {limit : Nat} (hreachable : a.Reachable limit) (s : σ) :
    let tracked := service.deliverTracked entries a s
    let once := service.deliverOnce entries s
    (service.Shape entries s tracked.1 tracked.2.2 ∧ Counted entries a tracked.2.1 tracked.2.2 ∧
      service.recorded.deliverTracked entries a (s, []) =
        ((tracked.1, (entries.take tracked.2.2.reach).flatMap Entry.asks), tracked.2)) ∧
    (service.Shape entries s once.1 once.2 ∧ once.2.dropped = [] ∧
      service.recorded.deliverOnce entries (s, []) =
        ((once.1, (entries.take once.2.reach).flatMap Entry.asks), once.2)) := by
  intro tracked once
  constructor
  · obtain ⟨after, hafter, hcounted⟩ :=
      deliver_counted service entries hids hreachable.bounded s
    have hshape := service.deliver_shape entries hids (some a) s
    have hrecorded := service.deliver_recorded entries (some a) s []
    rcases hout : service.deliver entries (some a) s with ⟨t, attempts, d⟩
    rw [hout] at hafter hcounted hshape hrecorded
    obtain rfl : attempts = some after := hafter
    have htracked : tracked = (t, after, d) := deliverTracked_of hout
    rw [htracked, deliverTracked_of hrecorded]
    exact ⟨hshape, hcounted, rfl⟩
  · have hshape := service.deliver_shape entries hids none s
    have hrecorded := service.deliver_recorded entries none s []
    refine ⟨hshape, deliver_undropped entries s, ?_⟩
    unfold Service.deliverOnce
    rw [hrecorded]
    rfl

end Counts

/-! ## A batch of all kinds -/

/-- An entry that is dropped, one that succeeds, one that fails and one behind that. -/
def assorted : List Entry :=
  [malformed "1-0", channelGone "2-0", malformed "3-0", channelGone "4-0"]

/-- The first entry has failed before, and the third has not. -/
theorem batch_shape_assorted :
    let before := ((Attempts.ofLimit 2).fail "1-0").1
    let r := Adapter.service.deliverTracked assorted before
      ({ publisher := {} } : Adapter LogPublisher)
    r.2.2 = { acked := ["1-0", "2-0"], dropped := ["1-0"], abandoned := true } ∧
      before.count "1-0" = 1 ∧ Counted assorted before r.2.1 r.2.2 ∧
      r.2.1.recorded? "1-0" = none ∧ r.2.1.recorded? "3-0" = some 1 ∧
      (Adapter.service.recorded.deliverTracked assorted before
        (({ publisher := {} } : Adapter LogPublisher), [])).1.2 = [.removeChannel "c"] := by
  intro before r
  have hids : (assorted.map (·.id)).Nodup := by decide
  have hreachable : before.Reachable 2 := .fail .start "1-0"
  have houtcome : r.2.2 = { acked := ["1-0", "2-0"], dropped := ["1-0"], abandoned := true } := by
    decide +kernel
  obtain ⟨⟨-, hcounted, hrecorded⟩, -⟩ := batch_shape Adapter.service assorted hids hreachable
    ({ publisher := {} } : Adapter LogPublisher)
  refine ⟨houtcome, by decide +kernel, hcounted, by decide +kernel, by decide +kernel, ?_⟩
  have hreach : r.2.2.reach = 3 := by rw [houtcome]; rfl
  rw [hrecorded]
  show (assorted.take r.2.2.reach).flatMap Entry.asks = _
  rw [hreach]
  rfl

end TableFeed
