import TableFeed.Proofs.Events.Handling
import TableFeed.Stream.Consumer

/-!
# The rounds of a consumer

A run of the consumer is a list of rounds, one for each read it sends: the consumer as it is when it
sends the read, and what it meets. Everything that a round does can be read off the two, without the
log and the backoff, which `Consumer.step` carries along.

* **`stepped`** — one round: what it sends, the next cursor, the counts and whether it is the last.
* **`subscribe_commands`** — the commands of a run are those of its rounds.
* **`rounds_induction`** — the crux of every statement about a moment of a run: what each round keeps
  holds of the rounds in front of any round.
* **`rounds_split`** — what stands in front of a round is a run of its own.
-/

namespace TableFeed

variable {σ : Type}

/-- A round: the consumer that sends a read, and what it meets. -/
structure Round (σ : Type) where
  consumer : Consumer σ
  turn : Turn

namespace Round

/-- The entries that are read. -/
def entries (r : Round σ) : List Entry :=
  match r.turn.reply with
  | .entries es => es
  | _ => []

/-- It reads that there are no entries. -/
def drained (r : Round σ) : Prop :=
  r.turn.reply = .entries []

/-- The end is asked for in it. -/
def ends (r : Round σ) : Bool :=
  match r.turn.reply with
  | .interrupted => true
  | _ => r.turn.endAsked

variable (service : Service σ)

/-- The handlings of the entries that are read. -/
def handlings (r : Round σ) : List (Handling σ) :=
  service.handlings r.entries (some r.consumer.attempts) r.consumer.state

/-- The outcome of the entries that are read. -/
def delivery (r : Round σ) : Delivery :=
  .ofHandlings (r.handlings service)

/-- What is sent: the read, and the acknowledgment of what may be acknowledged. -/
def commands (r : Round σ) : List Command :=
  .read r.consumer.cursor ::
    if (r.delivery service).acked.isEmpty then [] else [.ack (r.delivery service).acked]

/-- The cursor of the next read. -/
def nextCursor (r : Round σ) : Cursor :=
  match r.turn.reply with
  | .entries [] => .fresh
  | .entries (_ :: _) => if (r.delivery service).abandoned then .pending else r.consumer.cursor
  | _ => r.consumer.cursor

variable {service}

/-- Where nothing is read nothing is abandoned. -/
theorem abandoned_of_empty {r : Round σ} (h : r.entries = []) :
    (r.delivery service).abandoned = false := by
  unfold delivery handlings
  rw [h]
  rfl

theorem entries_of_drained {r : Round σ} (h : r.drained) : r.entries = [] := by
  unfold entries
  rw [show r.turn.reply = .entries [] from h]

end Round

namespace Consumer

variable (service : Service σ)

/-- The rounds of a run. A consumer that has stopped begins no more. -/
def rounds : List Turn → Consumer σ → List (Round σ)
  | [], _ => []
  | turn :: rest, c =>
    if c.stopped then [] else ⟨c, turn⟩ :: rounds rest (c.step service turn)

/-- The rounds of a run from the creation of the group. -/
def subscription (failure : Option StreamError) (turns : List Turn) (c : Consumer σ) :
    List (Round σ) :=
  match c.ensureGroup service failure with
  | (_, some _) => []
  | (c, none) => rounds service turns c

/-! ## One round -/

/-- What an acknowledgment leaves behind. -/
theorem acknowledge_eq (ids : List String) (failure : Option StreamError) (c : Consumer σ) :
    ∃ state, c.acknowledge service ids failure = { c with
      state, commands := c.commands ++ if ids.isEmpty then [] else [.ack ids] } := by
  unfold acknowledge
  cases h : ids.isEmpty with
  | true => exact ⟨c.state, by simp⟩
  | false =>
    cases failure with
    | none => exact ⟨c.state, rfl⟩
    | some e => exact ⟨_, rfl⟩

/-- What the entries of a read leave behind: the acknowledgment is sent, the counts go on, and the
cursor turns to new entries after an empty read and back after an abandoned batch. -/
theorem receive_eq (es : List Entry) (failure : Option StreamError) (c : Consumer σ) :
    ∃ state backoff waits, c.receive service es failure =
      { c with
        state, backoff, waits
        attempts := (service.deliverTracked es c.attempts c.state).2.1
        commands := c.commands ++
          if (service.deliverTracked es c.attempts c.state).2.2.acked.isEmpty then []
          else [.ack (service.deliverTracked es c.attempts c.state).2.2.acked]
        cursor := if es.isEmpty then .fresh
          else if (service.deliverTracked es c.attempts c.state).2.2.abandoned then .pending
          else c.cursor } := by
  unfold receive
  cases hes : es.isEmpty with
  | true =>
    obtain rfl := List.isEmpty_iff.mp hes
    refine ⟨c.state, c.backoff.reset, c.waits, ?_⟩
    simp [succeed, Service.deliverTracked, Service.deliver]
  | false =>
    rcases service.deliverTracked es c.attempts c.state with ⟨state, attempts, d⟩
    obtain ⟨state', hack⟩ := acknowledge_eq service d.acked failure { c with state, attempts }
    simp only [Bool.false_eq_true, if_false]
    rw [hack]
    cases d.abandoned with
    | true => exact ⟨_, _, _, rfl⟩
    | false => exact ⟨_, _, _, rfl⟩

/-- What is left of a consumer after a round. -/
structure Stepped (c : Consumer σ) (turn : Turn) (c' : Consumer σ) : Prop where
  config : c'.config = c.config
  commands : c'.commands = c.commands ++ (Round.mk c turn).commands service
  cursor : c'.cursor = (Round.mk c turn).nextCursor service
  attempts : some c'.attempts =
    (service.deliver (Round.mk c turn).entries (some c.attempts) c.state).2.1
  stopped : c'.stopped = (Round.mk c turn).ends

/-- One round does what its turn says. -/
theorem stepped {c : Consumer σ} (turn : Turn) (hrun : c.stopped = false) :
    Stepped service c turn (c.step service turn) := by
  obtain ⟨reply, ackFailure, endAsked⟩ := turn
  unfold step
  rw [hrun]
  cases reply with
  | interrupted => exact ⟨rfl, rfl, rfl, rfl, rfl⟩
  | failed e => exact ⟨rfl, rfl, rfl, rfl, rfl⟩
  | entries es =>
    obtain ⟨state, backoff, waits, hreceive⟩ :=
      receive_eq service es ackFailure (c.send (.read c.cursor))
    obtain ⟨hattempts, hdelivery⟩ := service.deliverTracked_eq es c.attempts c.state
    rw [service.deliver_eq] at hdelivery
    simp only [Bool.false_eq_true, if_false]
    rw [hreceive]
    -- the outcome of the batch is stated by its handlings, and computed with its counts
    refine ⟨rfl, ?_, ?_, hattempts, rfl⟩
    · show (c.commands ++ [.read c.cursor]) ++
        (if (service.deliverTracked es c.attempts c.state).2.2.acked.isEmpty then []
          else [.ack (service.deliverTracked es c.attempts c.state).2.2.acked]) = _
      rw [hdelivery, List.append_assoc]
      rfl
    · show (if es.isEmpty then Cursor.fresh
        else if (service.deliverTracked es c.attempts c.state).2.2.abandoned then .pending
        else c.cursor) = _
      rw [hdelivery]
      cases es <;> rfl

/-! ## Runs -/

variable {c : Consumer σ}

/-- A run of a consumer that has not stopped begins with a round. -/
theorem rounds_cons (turn : Turn) (rest : List Turn) (hrun : c.stopped = false) :
    rounds service (turn :: rest) c = ⟨c, turn⟩ :: rounds service rest (c.step service turn) := by
  rw [rounds, hrun]
  rfl

/-- A consumer that has stopped begins no round. -/
theorem rounds_stopped (turns : List Turn) (hstop : c.stopped = true) :
    rounds service turns c = [] := by
  cases turns with
  | nil => rfl
  | cons turn rest => rw [rounds, hstop, if_pos rfl]

/-- A consumer that has stopped stays as it is. -/
theorem run_stopped (turns : List Turn) (hstop : c.stopped = true) : c.run service turns = c := by
  induction turns with
  | nil => rfl
  | cons turn rest ih =>
    have hstep : c.step service turn = c := by
      unfold step
      rw [hstop, if_pos rfl]
    show (c.step service turn).run service rest = c
    rw [hstep, ih]

/-- The commands of a run are those of its rounds. -/
theorem run_commands (turns : List Turn) (c : Consumer σ) :
    (c.run service turns).commands =
      c.commands ++ (rounds service turns c).flatMap (·.commands service) := by
  induction turns generalizing c with
  | nil => exact (List.append_nil _).symm
  | cons turn rest ih =>
    cases hrun : c.stopped with
    | true =>
      rw [run_stopped service _ hrun, rounds_stopped service _ hrun]
      exact (List.append_nil _).symm
    | false =>
      rw [rounds_cons service turn rest hrun, List.flatMap_cons, ← List.append_assoc,
        ← (stepped service turn hrun).commands]
      exact ih (c.step service turn)

/-- What the creation of the group leaves behind. -/
theorem ensureGroup_eq (failure : Option StreamError) (c : Consumer σ) :
    ∃ state, (c.ensureGroup service failure).1 =
      { c with state, commands := c.commands ++ [.createGroup] } := by
  unfold ensureGroup
  cases failure with
  | none => exact ⟨_, rfl⟩
  | some e =>
    cases h : e.isBusyGroup with
    | true => exact ⟨_, by simp only [h, if_true]; rfl⟩
    | false => exact ⟨_, by simp only [h, Bool.false_eq_true, if_false]; rfl⟩

/-- The rounds of a run from the creation of the group, if there are any, are those of a consumer that
has sent nothing else yet. -/
theorem subscription_eq (failure : Option StreamError) (turns : List Turn) (c : Consumer σ) :
    c.subscription service failure turns = [] ∨ ∃ state, c.subscription service failure turns =
      rounds service turns { c with state, commands := c.commands ++ [.createGroup] } := by
  obtain ⟨state, hgroup⟩ := ensureGroup_eq service failure c
  unfold subscription
  rcases hc : c.ensureGroup service failure with ⟨c', _ | e⟩
  · rw [hc] at hgroup
    obtain rfl : c' = _ := hgroup
    exact Or.inr ⟨state, rfl⟩
  · exact Or.inl rfl

theorem rounds_of_subscription {failure : Option StreamError} {turns : List Turn} {c : Consumer σ}
    {pre post : List (Round σ)} {r : Round σ}
    (h : c.subscription service failure turns = pre ++ r :: post) :
    ∃ state, rounds service turns { c with state, commands := c.commands ++ [.createGroup] } =
      pre ++ r :: post := by
  rcases subscription_eq service failure turns c with hnone | ⟨state, hsome⟩
  · exact absurd (hnone.symm.trans h) (by simp)
  · exact ⟨state, hsome.symm.trans h⟩

/-- The commands of a run from the creation of the group are that one and those of its rounds. -/
theorem subscribe_commands (failure : Option StreamError) (turns : List Turn) (c : Consumer σ) :
    (c.subscribe service failure turns).1.commands =
      c.commands ++ .createGroup ::
        (c.subscription service failure turns).flatMap (·.commands service) := by
  obtain ⟨state, hgroup⟩ := ensureGroup_eq service failure c
  unfold subscribe subscription
  rcases hc : c.ensureGroup service failure with ⟨c', _ | e⟩
  · rw [hc] at hgroup
    obtain rfl : c' = _ := hgroup
    show (run service _ turns).commands = _
    rw [run_commands, List.append_assoc]
    rfl
  · rw [hc] at hgroup
    obtain rfl : c' = _ := hgroup
    rfl

/-- What holds at first and is kept by every round holds of the rounds in front of a round and of its
consumer. -/
theorem rounds_induction {P : List (Round σ) → Consumer σ → Prop}
    (hstep : ∀ pre c turn, c.stopped = false → P pre c → P (pre ++ [⟨c, turn⟩]) (c.step service turn))
    {turns : List Turn} {before pre post : List (Round σ)} {r : Round σ} (hstart : P before c)
    (h : rounds service turns c = pre ++ r :: post) : P (before ++ pre) r.consumer := by
  induction turns generalizing c before pre with
  | nil => exact absurd h (by simp [rounds])
  | cons turn rest ih =>
    cases hrun : c.stopped with
    | true =>
      rw [rounds_stopped service _ hrun] at h
      exact absurd h (by simp)
    | false =>
      rw [rounds_cons service turn rest hrun] at h
      cases pre with
      | nil =>
        obtain ⟨rfl, _⟩ := List.cons.inj h
        rw [List.append_nil]
        exact hstart
      | cons r' pre =>
        -- the first round goes over to the rounds in front of the rest of the run
        obtain ⟨rfl, htail⟩ := List.cons.inj h
        have hnext := ih (hstep before c turn hrun hstart) htail
        rw [List.append_assoc] at hnext
        exact hnext

/-- What stands in front of a round is a run of its own, at the end of which the round's consumer
stands. -/
theorem rounds_split {turns : List Turn} {pre post : List (Round σ)} {r : Round σ}
    (h : rounds service turns c = pre ++ r :: post) :
    ∃ before after, turns = before ++ r.turn :: after ∧ rounds service before c = pre ∧
      r.consumer = c.run service before ∧ r.consumer.stopped = false ∧
      post = rounds service after (r.consumer.step service r.turn) := by
  induction turns generalizing c pre with
  | nil => exact absurd h (by simp [rounds])
  | cons turn rest ih =>
    cases hrun : c.stopped with
    | true =>
      rw [rounds_stopped service _ hrun] at h
      exact absurd h (by simp)
    | false =>
      rw [rounds_cons service turn rest hrun] at h
      cases pre with
      | nil =>
        obtain ⟨rfl, rfl⟩ := List.cons.inj h
        exact ⟨[], rest, rfl, rfl, rfl, hrun, rfl⟩
      | cons r' pre =>
        obtain ⟨rfl, htail⟩ := List.cons.inj h
        obtain ⟨before, after, rfl, rfl, hconsumer, hgoing, hpost⟩ := ih htail
        exact ⟨turn :: before, after, rfl, rounds_cons service turn before hrun, hconsumer, hgoing,
          hpost⟩

end Consumer

end TableFeed
