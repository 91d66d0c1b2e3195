import TableFeed.Proofs.Stream.Rounds

/-!
# What the consumer reads and acknowledges

Three laws of every run, whatever the server answers, whatever the service does with the entries and
whenever the end is asked for.

* **`acked_settled`** — an acknowledgment names the first entries of the read just received, and each
  of them was handled, or failed as often as the limit says.
* **`cursor_fresh_iff`** — new entries are read exactly from when a read of the old ones came back
  empty until a batch is abandoned (`Emptied`).
* **`last_of_ends`** — nothing is read once the end is asked for, and what was received before is
  handled as ever (`step_endAsked`).

`consumer_discipline` puts them together.
-/

namespace TableFeed

namespace Consumer

variable {σ : Type} (service : Service σ)

/-! ## Acknowledgments -/

/-- The counts of failed attempts are those of the handlings of all rounds so far. -/
def Counts (limit : Nat) (before : List (Round σ)) (c : Consumer σ) : Prop :=
  c.attempts.limit = limit ∧ c.attempts.Tracks (before.flatMap (·.handlings service))

/-- Every round goes on with the counts. -/
theorem counts_step {limit : Nat} (before : List (Round σ)) (c : Consumer σ) (turn : Turn)
    (hrun : c.stopped = false) (h : Counts service limit before c) :
    Counts service limit (before ++ [⟨c, turn⟩]) (c.step service turn) := by
  obtain ⟨hlimit, htracks⟩ := h
  have hattempts := (stepped service turn hrun).attempts
  obtain ⟨a', ha', hlimit', htracks', _⟩ :=
    deliver_tracked service (Round.mk c turn).entries htracks c.state
  rw [ha'] at hattempts
  obtain rfl := Option.some.inj hattempts
  refine ⟨hlimit'.trans hlimit, ?_⟩
  rw [List.flatMap_append, List.flatMap_singleton]
  exact htracks'

variable {service} {turns : List Turn} {c : Consumer σ} {pre post : List (Round σ)} {r : Round σ}

/-- Each id that is acknowledged is that of the entry in its place, which was handled without a
failure, or failed for the last time that the limit allows. -/
theorem acked_settled (hc : Counts service c.attempts.limit [] c)
    (h : rounds service turns c = pre ++ r :: post) {i : Nat}
    (hi : i < (r.delivery service).acked.length) :
    ∃ x, (r.handlings service)[i]? = some x ∧ r.entries[i]? = some x.entry ∧
      (r.delivery service).acked[i]? = some x.entry.id ∧
      ((service.process x.entry x.before).2 = none ∨
        (service.process x.entry x.before).2 ≠ none ∧
        failedSince x.entry.id
          (pre.flatMap (·.handlings service) ++ (r.handlings service).take i) + 1 =
            c.attempts.limit) := by
  obtain ⟨hlimit, htracks⟩ := rounds_induction service (counts_step service) hc h
  obtain ⟨x, hx, hsettled, hid⟩ := Service.acked_getElem? hi
  obtain ⟨hlt, hget⟩ := List.getElem?_eq_some_iff.mp hx
  have hentry : r.entries[i]? = some x.entry := by
    have hpre : (r.handlings service).map (·.entry) <+: r.entries :=
      service.handlings_prefix r.entries (some r.consumer.attempts) r.consumer.state
    have hlt' : i < ((r.handlings service).map (·.entry)).length := by
      rwa [List.length_map]
    rw [List.prefix_iff_getElem?.mp hpre i hlt', List.getElem_map]
    exact congrArg (fun y : Handling σ => some y.entry) hget
  refine ⟨x, hx, hentry, hid, ?_⟩
  have hhandled := service.handled_iff (List.mem_of_getElem? hx)
  by_cases hv : x.verdict = .handled
  · exact Or.inl (hhandled.mp hv)
  · -- it is settled and was not handled: it was dropped, with its last attempt
    refine Or.inr ⟨fun hnone => hv (hhandled.mpr hnone), ?_⟩
    have hdropped : x.verdict = .dropped := by
      cases hcase : x.verdict <;> simp_all [Verdict.settled]
    obtain ⟨_, _, _, _, hlast⟩ := deliver_tracked service r.entries htracks r.consumer.state
    have hsplit : r.handlings service =
        (r.handlings service).take i ++ x :: (r.handlings service).drop (i + 1) := by
      rw [← hget, ← List.drop_eq_getElem_cons hlt, List.take_append_drop]
    exact (hlast _ x _ hsplit hdropped).trans hlimit

/-! ## The cursor -/

/-- A read of the old entries came back empty and no batch was abandoned since. -/
def Emptied (service : Service σ) (before : List (Round σ)) : Prop :=
  ∃ first e since, before = first ++ e :: since ∧ e.consumer.cursor = .pending ∧ e.drained ∧
    ∀ x ∈ since, (x.delivery service).abandoned = false

/-- One more round keeps that, unless it abandons its batch, and may bring it about. -/
theorem emptied_concat (before : List (Round σ)) (r : Round σ) :
    Emptied service (before ++ [r]) ↔
      r.consumer.cursor = .pending ∧ r.drained ∨
        Emptied service before ∧ (r.delivery service).abandoned = false := by
  constructor
  · rintro ⟨first, e, since, heq, hcursor, hdrained, hsince⟩
    rcases List.eq_nil_or_concat since with rfl | ⟨since, x, rfl⟩
    · -- the last round is the empty read
      obtain ⟨rfl, rfl⟩ := List.append_inj' heq rfl |>.imp_right fun h => (List.cons.inj h).1
      exact Or.inl ⟨hcursor, hdrained⟩
    · -- the last round comes later than the empty read
      have heq' : before ++ [r] = (first ++ e :: since) ++ [x] := by
        rw [heq]
        simp
      obtain ⟨rfl, hlast⟩ := List.append_inj' heq' rfl
      obtain rfl := (List.cons.inj hlast).1
      refine Or.inr ⟨⟨first, e, since, rfl, hcursor, hdrained, ?_⟩, hsince r (by simp)⟩
      intro y hy
      exact hsince y (by simp [hy])
  · rintro (⟨hcursor, hdrained⟩ | ⟨⟨first, e, since, rfl, hcursor, hdrained, hsince⟩, hr⟩)
    · exact ⟨before, r, [], rfl, hcursor, hdrained, by simp⟩
    · refine ⟨first, e, since ++ [r], by simp, hcursor, hdrained, ?_⟩
      intro y hy
      rcases List.mem_append.mp hy with hy | hy
      · exact hsince y hy
      · rw [List.mem_singleton.mp hy]
        exact hr

/-- The cursor turns to new entries with an empty read, and back with an abandoned batch. -/
theorem nextCursor_fresh_iff (r : Round σ) :
    r.nextCursor service = .fresh ↔
      r.drained ∨ r.consumer.cursor = .fresh ∧ (r.delivery service).abandoned = false := by
  obtain ⟨c, ⟨reply, ackFailure, endAsked⟩⟩ := r
  cases reply with
  | interrupted =>
    rw [Round.abandoned_of_empty rfl]
    simp [Round.nextCursor, Round.drained]
  | failed e =>
    rw [Round.abandoned_of_empty rfl]
    simp [Round.nextCursor, Round.drained]
  | entries es =>
    cases es with
    | nil => simp [Round.nextCursor, Round.drained]
    | cons e rest =>
      simp only [Round.nextCursor, Round.drained, ReadReply.entries.injEq, reduceCtorEq, false_or]
      cases (Round.delivery service _).abandoned <;> simp

theorem cursor_step (before : List (Round σ)) (c : Consumer σ) (turn : Turn)
    (hrun : c.stopped = false) (h : c.cursor = .fresh ↔ Emptied service before) :
    (c.step service turn).cursor = .fresh ↔ Emptied service (before ++ [⟨c, turn⟩]) := by
  rw [(stepped service turn hrun).cursor, nextCursor_fresh_iff, emptied_concat, ← h]
  have hempty : (Round.mk c turn).drained →
      ((Round.mk c turn).delivery service).abandoned = false :=
    fun hdrained => Round.abandoned_of_empty (Round.entries_of_drained hdrained)
  show _ ∨ c.cursor = .fresh ∧ _ ↔ c.cursor = .pending ∧ _ ∨ _
  constructor
  · rintro (hdrained | hkept)
    · -- an empty read of new entries finds the cursor where it was
      cases hcursor : c.cursor with
      | pending => exact Or.inl ⟨rfl, hdrained⟩
      | fresh => exact Or.inr ⟨rfl, hempty hdrained⟩
    · exact Or.inr hkept
  · rintro (⟨_, hdrained⟩ | hkept)
    · exact Or.inl hdrained
    · exact Or.inr hkept

/-- New entries are read exactly from when the old ones were found to be none until a batch is
abandoned. -/
theorem cursor_fresh_iff (hc : c.cursor = .pending)
    (h : rounds service turns c = pre ++ r :: post) :
    r.consumer.cursor = .fresh ↔ Emptied service pre := by
  have hstart : c.cursor = .fresh ↔ Emptied service [] := by
    rw [hc]
    refine ⟨fun hfresh => absurd hfresh (by decide), ?_⟩
    rintro ⟨first, e, since, heq, _⟩
    exact absurd heq (by simp)
  exact rounds_induction service (P := fun before c => c.cursor = .fresh ↔ Emptied service before)
    cursor_step hstart h

/-! ## The end -/

/-- The round in which the end is asked for is the last. -/
theorem last_of_ends (h : rounds service turns c = pre ++ r :: post) (hends : r.ends = true) :
    post = [] := by
  obtain ⟨_, after, _, _, _, hrun, rfl⟩ := rounds_split service h
  have hstop : (r.consumer.step service r.turn).stopped = true :=
    (stepped service r.turn hrun).stopped.trans hends
  exact rounds_stopped service after hstop

/-- Asking for the end changes nothing about what is done with what was received. -/
theorem step_endAsked (c : Consumer σ) (turn : Turn) (hrun : c.stopped = false) :
    c.step service turn =
      { c.step service { turn with endAsked := false } with
        stopped := (Round.mk c turn).ends } := by
  obtain ⟨reply, ackFailure, endAsked⟩ := turn
  unfold step
  rw [hrun]
  cases reply <;> rfl

end Consumer

/-- Every run of a consumer, over every script of reads, acknowledgments and ends and every service,
sends the creation of the group and then round by round a read and its acknowledgment. In every
round an acknowledgment names the first entries of the read, in order, and each of them was
handled without a failure in this round or failed for the last time the limit allows. The read
is one of new entries exactly if a read of the old ones came back empty before and no batch was
abandoned since. If the end is asked for before the first read there is no round; if it is asked
for in a round that round is the last, and handles and acknowledges its entries as it would anyway. -/
theorem consumer_discipline {σ : Type} (service : Service σ) (config : ConsumerConfig) (s : σ)
    (asked : Bool) (groupFailure : Option StreamError) (turns : List Turn) :
    let c : Consumer σ := { Consumer.ofConfig config s with stopped := asked }
    let rounds := c.subscription service groupFailure turns
    (c.subscribe service groupFailure turns).1.commands =
      .createGroup :: rounds.flatMap (·.commands service) ∧
    (asked = true → rounds = []) ∧
    ∀ pre r post, rounds = pre ++ r :: post →
      ((r.delivery service).acked <+: r.entries.map (·.id) ∧
        ∀ i < (r.delivery service).acked.length, ∃ x, (r.handlings service)[i]? = some x ∧
          r.entries[i]? = some x.entry ∧ (r.delivery service).acked[i]? = some x.entry.id ∧
          ((service.process x.entry x.before).2 = none ∨
            (service.process x.entry x.before).2 ≠ none ∧
            failedSince x.entry.id
              (pre.flatMap (·.handlings service) ++ (r.handlings service).take i) + 1 =
                max config.maxDeliveries 1)) ∧
      (r.consumer.cursor = .fresh ↔
        ∃ first e since, pre = first ++ e :: since ∧ e.consumer.cursor = .pending ∧ e.drained ∧
          ∀ x ∈ since, (x.delivery service).abandoned = false) ∧
      (r.ends = true → post = []) ∧
      r.consumer.step service r.turn =
        { r.consumer.step service { r.turn with endAsked := false } with stopped := r.ends } := by
  intro c rounds
  refine ⟨Consumer.subscribe_commands service groupFailure turns c, ?_, ?_⟩
  · intro hasked
    rcases Consumer.subscription_eq service groupFailure turns c with hnone | ⟨state, hsome⟩
    · exact hnone
    · exact hsome.trans (Consumer.rounds_stopped service turns hasked)
  · intro pre r post h
    obtain ⟨state, hrounds⟩ := Consumer.rounds_of_subscription service h
    have hfirst := service.acked_prefix r.entries (some r.consumer.attempts) r.consumer.state
    rw [service.deliver_eq] at hfirst
    obtain ⟨_, _, _, _, _, hrun, _⟩ := Consumer.rounds_split service hrounds
    refine ⟨⟨hfirst, ?_⟩, Consumer.cursor_fresh_iff rfl hrounds,
      Consumer.last_of_ends hrounds, Consumer.step_endAsked r.consumer r.turn hrun⟩
    intro i hi
    exact Consumer.acked_settled ⟨rfl, Attempts.tracks_nil config.maxDeliveries⟩ hrounds hi

end TableFeed
