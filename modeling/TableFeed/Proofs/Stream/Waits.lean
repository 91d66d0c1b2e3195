import TableFeed.Proofs.Stream.Server
import TableFeed.Proofs.Timing.Delays

/-!
# What the consumer waits out

A round is bad if its read fails or its batch is abandoned. The consumer waits behind bad rounds alone, and
how long depends on the bad rounds in a row only: the count of the backoff is their number, up to the
greatest word, from where on no delay changes any more.

* **`waits_step`**, **`backoff_step`** — what one round does with the delays and the backoff.
* **`run_waits`** — the delays of a run are those of its rounds.
* **`backoff_of_rounds`** — the crux: the count is the length of the streak that the round stands behind.
* **`waits_doubled`** — so each delay is the initial one, doubled for every bad round before it in its
  streak, up to the cap.
-/

namespace TableFeed

variable {σ : Type} (service : Service σ)

namespace Round

/-- Its read fails, or its batch is abandoned. -/
def bad (r : Round σ) : Bool :=
  match r.turn.reply with
  | .failed _ => true
  | _ => (r.delivery service).abandoned

/-- What the consumer waits out behind it. -/
def waits (r : Round σ) : List Duration :=
  (r.consumer.step service r.turn).waits.drop r.consumer.waits.length

end Round

/-- The number of bad rounds at the end of some rounds, behind the last good one. -/
def streak (before : List (Round σ)) : Nat :=
  (before.reverse.takeWhile (·.bad service)).length

theorem streak_concat (before : List (Round σ)) (r : Round σ) :
    streak service (before ++ [r]) = if r.bad service then streak service before + 1 else 0 := by
  unfold streak
  rw [List.reverse_append, List.reverse_singleton, List.singleton_append]
  cases h : r.bad service with
  | true => rw [List.takeWhile_cons_of_pos h, List.length_cons, if_pos rfl]
  | false =>
    rw [List.takeWhile_cons_of_neg (by simp [h])]
    rfl

/-- A streak goes on with the bad rounds behind it. -/
theorem streak_append (before : List (Round σ)) {more : List (Round σ)}
    (h : ∀ r ∈ more, r.bad service = true) :
    streak service (before ++ more) = streak service before + more.length := by
  induction more generalizing before with
  | nil =>
    rw [List.append_nil]
    rfl
  | cons r more ih =>
    have hfirst : streak service (before ++ [r]) = streak service before + 1 := by
      rw [streak_concat, h r List.mem_cons_self, if_pos rfl]
    have hrest := ih (before ++ [r]) fun x hx => h x (List.mem_cons_of_mem r hx)
    rw [List.append_assoc, List.singleton_append] at hrest
    rw [hrest, hfirst, List.length_cons]
    omega

namespace Consumer

/-! ## One round -/

/-- What the entries of a read do with the delays and the backoff. -/
theorem receive_backoff (es : List Entry) (failure : Option StreamError) (c : Consumer σ) :
    let abandoned := (service.deliverTracked es c.attempts c.state).2.2.abandoned
    (c.receive service es failure).backoff =
        (if abandoned then c.backoff.next.1 else c.backoff.reset) ∧
      (c.receive service es failure).waits =
        c.waits ++ if abandoned then [c.backoff.next.2] else [] := by
  unfold receive
  cases hes : es.isEmpty with
  | true =>
    obtain rfl := List.isEmpty_iff.mp hes
    exact ⟨rfl, (List.append_nil _).symm⟩
  | false =>
    rcases service.deliverTracked es c.attempts c.state with ⟨state, attempts, d⟩
    obtain ⟨state', hack⟩ := acknowledge_eq service d.acked failure { c with state, attempts }
    simp only [Bool.false_eq_true, if_false]
    rw [hack]
    cases d.abandoned with
    | true => exact ⟨rfl, rfl⟩
    | false => exact ⟨rfl, (List.append_nil _).symm⟩

variable {service} {c : Consumer σ} (turn : Turn)

theorem bad_of_entries {es : List Entry} (h : turn.reply = .entries es) :
    (Round.mk c turn).bad service =
      (service.deliverTracked es c.attempts c.state).2.2.abandoned := by
  have hentries : (Round.mk c turn).entries = es := by
    unfold Round.entries
    rw [h]
  unfold Round.bad Round.delivery Round.handlings
  rw [(service.deliverTracked_eq es c.attempts c.state).2, service.deliver_eq, hentries, h]

/-- A bad round adds a delay. -/
theorem waits_step (hrun : c.stopped = false) : (c.step service turn).waits =
    c.waits ++ if (Round.mk c turn).bad service then [c.backoff.next.2] else [] := by
  unfold step
  rw [hrun]
  obtain ⟨reply, ackFailure, endAsked⟩ := turn
  cases reply with
  | interrupted => exact (List.append_nil _).symm
  | failed e => rfl
  | entries es =>
    rw [bad_of_entries _ rfl]
    exact (receive_backoff service es ackFailure (c.send (.read c.cursor))).2

/-- A bad round is counted, and a good one that does not end the run forgets them. -/
theorem backoff_step (hrun : c.stopped = false) (hgoing : (c.step service turn).stopped = false) :
    (c.step service turn).backoff =
      if (Round.mk c turn).bad service then c.backoff.next.1 else c.backoff.reset := by
  revert hgoing
  unfold step
  rw [hrun]
  obtain ⟨reply, ackFailure, endAsked⟩ := turn
  cases reply with
  | interrupted => exact fun hstop => nomatch hstop
  | failed e => exact fun _ => rfl
  | entries es =>
    rw [bad_of_entries _ rfl]
    exact fun _ => (receive_backoff service es ackFailure (c.send (.read c.cursor))).1

variable {turns : List Turn} {pre post : List (Round σ)} {r : Round σ}

/-! ## Runs -/

theorem waits_round (hrun : r.consumer.stopped = false) :
    r.waits service = if r.bad service then [r.consumer.backoff.next.2] else [] := by
  unfold Round.waits
  rw [waits_step r.turn hrun, List.drop_left]

/-- The delays of a run are those of its rounds. -/
theorem run_waits (turns : List Turn) (c : Consumer σ) : (c.run service turns).waits =
    c.waits ++ (rounds service turns c).flatMap (·.waits service) := by
  induction turns generalizing c with
  | nil => exact (List.append_nil _).symm
  | cons turn rest ih =>
    cases hrun : c.stopped with
    | true =>
      rw [run_stopped service _ hrun, rounds_stopped service _ hrun]
      exact (List.append_nil _).symm
    | false =>
      have hround : (Round.mk c turn).waits service =
          if (Round.mk c turn).bad service then [c.backoff.next.2] else [] := waits_round hrun
      rw [rounds_cons service turn rest hrun, List.flatMap_cons, ← List.append_assoc, hround,
        ← waits_step turn hrun]
      exact ih (c.step service turn)

/-- A run from the creation of the group waits out what its rounds do. -/
theorem subscribe_waits (failure : Option StreamError) (turns : List Turn) (c : Consumer σ) :
    (c.subscribe service failure turns).1.waits =
      c.waits ++ (c.subscription service failure turns).flatMap (·.waits service) := by
  obtain ⟨state, hgroup⟩ := ensureGroup_eq service failure c
  unfold subscribe subscription
  rcases hc : c.ensureGroup service failure with ⟨c', _ | e⟩
  · rw [hc] at hgroup
    obtain rfl : c' = _ := hgroup
    exact run_waits turns _
  · rw [hc] at hgroup
    obtain rfl : c' = _ := hgroup
    exact (List.append_nil _).symm

/-- The backoff of a consumer that goes on counts the bad rounds in a row. -/
theorem backoff_of_rounds (hstart : c.backoff.failures = 0)
    (h : rounds service turns c = pre ++ r :: post) :
    r.consumer.backoff =
      { limits := c.backoff.limits, failures := min Backoff.maxWord (streak service pre) } := by
  obtain ⟨_, _, _, _, _, hrun, _⟩ := rounds_split service h
  have hfirst : c.stopped = false → c.backoff =
      { limits := c.backoff.limits, failures := min Backoff.maxWord (streak service []) } := fun _ =>
    congrArg (Backoff.mk c.backoff.limits) (hstart.trans (Nat.min_zero _).symm)
  refine rounds_induction service (P := fun before d => d.stopped = false → d.backoff =
    { limits := c.backoff.limits, failures := min Backoff.maxWord (streak service before) })
    ?_ hfirst h hrun
  intro before d turn hgoes hd hgoing
  rw [backoff_step turn hgoes hgoing, streak_concat, hd hgoes]
  cases (Round.mk d turn).bad service with
  | true =>
    -- a count that has reached the greatest word stays there
    refine congrArg (Backoff.mk c.backoff.limits) ?_
    show min Backoff.maxWord (min Backoff.maxWord (streak service before) + 1) =
      min Backoff.maxWord (streak service before + 1)
    omega
  | false => exact congrArg (Backoff.mk c.backoff.limits) (Nat.min_zero _).symm

/-- The delay behind a bad round is that of the bad rounds in a row. -/
theorem waits_of_streak (hstart : c.backoff.failures = 0)
    (h : rounds service turns c = pre ++ r :: post) :
    r.waits service =
      if r.bad service then [Backoff.delay (streak service pre + 1) c.backoff.limits] else [] := by
  obtain ⟨_, _, _, _, _, hrun, _⟩ := rounds_split service h
  have hcount : min Backoff.maxWord (min Backoff.maxWord (streak service pre) + 1) =
      min Backoff.maxWord (streak service pre + 1) := by omega
  rw [waits_round hrun, backoff_of_rounds hstart h]
  show (if r.bad service then [Backoff.delay (min Backoff.maxWord
    (min Backoff.maxWord (streak service pre) + 1)) c.backoff.limits] else []) = _
  rw [hcount, Backoff.delay_saturated]

end Consumer

/-! ## The law of the waits -/

/-- **What every run waits out.** Whatever the reads, the acknowledgments and the service give and
whenever the end is asked for, the delays of a run are those of its rounds, in order. A round whose read
fails or whose batch is abandoned has one, and the others have none: the initial delay, doubled for every
such round in a row before it, and at most the cap. So of two rounds in a streak the later one waits no
less than the earlier one and no more than the cap. The initial delay and the cap are of up to 64 bits of
milliseconds, the initial one of whole ones. The end may cut the last delay of a run short. -/
theorem waits_doubled (config : ConsumerConfig) (s : σ) (asked : Bool)
    (groupFailure : Option StreamError) (turns : List Turn) {millis : Nat}
    (hmillis : millis ≤ Backoff.maxWord) (hinitial : config.backoff.initial = .ofMillis millis)
    (hcap : config.backoff.cap.nanos ≤ (Duration.ofMillis Backoff.maxWord).nanos) :
    let c : Consumer σ := { Consumer.ofConfig config s with stopped := asked }
    let rounds := c.subscription service groupFailure turns
    (c.subscribe service groupFailure turns).1.waits = rounds.flatMap (·.waits service) ∧
    (∀ pre r post, rounds = pre ++ r :: post →
      (r.waits service).map (·.nanos) =
        if r.bad service then
          [min ((Duration.ofMillis millis).nanos * 2 ^ streak service pre) config.backoff.cap.nanos]
        else []) ∧
    ∀ pre r between r' post, rounds = pre ++ r :: between ++ r' :: post →
      (∀ x ∈ r :: between, x.bad service = true) →
      ∀ d ∈ r.waits service, ∀ d' ∈ r'.waits service,
        d.nanos ≤ d'.nanos ∧ d'.nanos ≤ config.backoff.cap.nanos := by
  intro c rounds
  have hlaw : ∀ pre r post, rounds = pre ++ r :: post → (r.waits service).map (·.nanos) =
      if r.bad service then
        [min ((Duration.ofMillis millis).nanos * 2 ^ streak service pre) config.backoff.cap.nanos]
      else [] := by
    intro pre r post h
    obtain ⟨state, hrounds⟩ := Consumer.rounds_of_subscription service h
    rw [Consumer.waits_of_streak rfl hrounds]
    cases r.bad service with
    | true =>
      exact congrArg (fun n => [n]) (Backoff.delay_of_whole hmillis hinitial hcap (streak service pre))
    | false => rfl
  refine ⟨Consumer.subscribe_waits groupFailure turns c, hlaw, ?_⟩
  intro pre r between r' post h hbad d hd d' hd'
  have hlater := hlaw (pre ++ r :: between) r' post h
  rw [List.append_assoc, List.cons_append] at h
  have hearlier := hlaw pre r (between ++ r' :: post) h
  -- the streak before the later round is longer by the rounds from the earlier one on
  rw [streak_append service pre hbad] at hlater
  rw [hbad r List.mem_cons_self, if_pos rfl] at hearlier
  have hd := List.mem_map_of_mem (f := Duration.nanos) hd
  have hd' := List.mem_map_of_mem (f := Duration.nanos) hd'
  rw [hearlier, List.mem_singleton] at hd
  rw [hlater] at hd'
  split at hd'
  · rw [List.mem_singleton] at hd'
    rw [hd, hd']
    have hpower : 2 ^ streak service pre ≤ 2 ^ (streak service pre + (r :: between).length) :=
      Nat.pow_le_pow_right (by decide) (Nat.le_add_right _ _)
    exact ⟨min_le_min_right _ (Nat.mul_le_mul_left _ hpower), Nat.min_le_right _ _⟩
  · exact absurd hd' List.not_mem_nil

/-- Three milliseconds at first, five at most. -/
def impatient : ConsumerConfig :=
  { backoff := { initial := .ofMillis 3, cap := .ofMillis 5 } }

/-- A refused read, an entry that fails, no entries, and a refused read again. -/
def refusals : List Turn :=
  [{ reply := .failed (.signalled "ResponseError" none) },
    { reply := .entries [⟨"1-0", [("operation", "thing.create"), ("metadata", "oops")]⟩] },
    { reply := .entries [] }, { reply := .failed (.signalled "ResponseError" none) }]

/-- The second of two bad rounds in a row waits up to the cap, and the good round behind them starts
anew. -/
theorem waits_doubled_refusals :
    ∃ a b c d, (Consumer.ofConfig impatient ()).subscription obliging none refusals = [a, b, c, d] ∧
      (a.waits obliging).map (·.nanos) = [3000000] ∧ (b.waits obliging).map (·.nanos) = [5000000] ∧
      (c.waits obliging).map (·.nanos) = [] ∧ (d.waits obliging).map (·.nanos) = [3000000] := by
  have hlaw := (waits_doubled obliging impatient () false none refusals
    (show 3 ≤ Backoff.maxWord by decide) rfl (by decide)).2.1
  refine ⟨_, _, _, _, rfl, ?_, ?_, ?_, ?_⟩
  · exact (hlaw [] _ [_, _, _] rfl).trans (by decide +kernel)
  · exact (hlaw [_] _ [_, _] rfl).trans (by decide +kernel)
  · exact (hlaw [_, _] _ [_] rfl).trans (by decide +kernel)
  · exact (hlaw [_, _, _] _ [] rfl).trans (by decide +kernel)

end TableFeed
