import TableFeed.Proofs.Stream.Discipline

/-!
# A server that respects the group, and old entries before new ones

A consumer group remembers which entries it gave to the consumer and got no acknowledgment for. A
`Server` is that memory. What it may answer is `Server.Answers`: a read of old entries gives the
first ones it remembers, and nothing only if there are none; a read of new entries gives only what
was never given. A failed read gives nothing at all, and a failed acknowledgment changes nothing.

The consumer is meant to read nothing new while something old is left. What it looks at is whether
a batch was abandoned, and not whether its acknowledgment got through.

* **`received_pending`** — what was received is acknowledged, or the server still remembers it.
* **`acked_before_fresh_iff`** — the crux: where new entries are read, everything received is
  acknowledged exactly if no acknowledgment has failed since the old entries were found to be none.
-/

namespace TableFeed

variable {σ : Type}

/-- What the server knows of the group. -/
structure Server where
  /-- Entries that were given and not acknowledged, oldest first. -/
  pending : List Entry := []
  /-- The ids of all entries given so far. -/
  given : List String := []

namespace Round

variable (service : Service σ)

/-- The ids whose acknowledgment got through. -/
def acknowledged (r : Round σ) : List String :=
  if r.turn.ackFailure.isNone then (r.delivery service).acked else []

variable {service} {r : Round σ}

/-- Only what was received is acknowledged. -/
theorem mem_entries_of_acked {id : String} (h : id ∈ (r.delivery service).acked) :
    ∃ e ∈ r.entries, e.id = id := by
  have hfirst := service.acked_prefix r.entries (some r.consumer.attempts) r.consumer.state
  rw [service.deliver_eq] at hfirst
  exact List.mem_map.mp (hfirst.subset h)

theorem acked_of_acknowledged {id : String} (h : id ∈ r.acknowledged service) :
    id ∈ (r.delivery service).acked ∧ r.turn.ackFailure = none := by
  unfold acknowledged at h
  split at h
  · rename_i hnone
    exact ⟨h, Option.isNone_iff_eq_none.mp hnone⟩
  · exact absurd h (by simp)

/-- A batch that was not abandoned is acknowledged as a whole, if that gets through. -/
theorem acknowledged_complete (hdone : (r.delivery service).abandoned = false)
    (hack : r.turn.ackFailure = none) {e : Entry} (he : e ∈ r.entries) :
    e.id ∈ r.acknowledged service := by
  have hcomplete : (r.delivery service).acked = r.entries.map (·.id) := by
    have h := service.handlings_complete r.entries (some r.consumer.attempts) r.consumer.state
    rw [service.deliver_eq] at h
    exact h hdone
  unfold acknowledged
  rw [hack, hcomplete]
  exact List.mem_map_of_mem he

end Round

namespace Server

variable (service : Service σ)

/-- The server may answer as it does in a round. -/
def Answers (srv : Server) (r : Round σ) : Prop :=
  match r.consumer.cursor with
  | .pending => r.entries <+: srv.pending ∧ (r.drained → srv.pending = [])
  | .fresh => (r.entries.map (·.id)).Nodup ∧ ∀ e ∈ r.entries, e.id ∉ srv.given

/-- The server after a round. -/
def after (srv : Server) (r : Round σ) : Server where
  pending :=
    (match r.consumer.cursor with
      | .pending => srv.pending
      | .fresh => srv.pending ++ r.entries).filter (·.id ∉ r.acknowledged service)
  given := srv.given ++ r.entries.map (·.id)

/-- The server after some rounds. -/
def afterAll (srv : Server) (rs : List (Round σ)) : Server :=
  rs.foldl (after service) srv

/-- The server may answer as it does in all of some rounds. -/
def Allows (srv : Server) (rs : List (Round σ)) : Prop :=
  ∀ pre r post, rs = pre ++ r :: post → (srv.afterAll service pre).Answers r

variable {service} {srv : Server}

/-- What the server remembers is acknowledged later, or remembered still. -/
theorem pending_kept (rs : List (Round σ)) {e : Entry} (he : e ∈ srv.pending) :
    (∃ y ∈ rs, e.id ∈ y.acknowledged service) ∨ e ∈ (srv.afterAll service rs).pending := by
  induction rs generalizing srv with
  | nil => exact Or.inr he
  | cons r rest ih =>
    by_cases hack : e.id ∈ r.acknowledged service
    · exact Or.inl ⟨r, List.mem_cons_self, hack⟩
    · have hnext : e ∈ (srv.after service r).pending := by
        refine List.mem_filter.mpr ⟨?_, by simpa using hack⟩
        split
        · exact he
        · exact List.mem_append_left _ he
      rcases ih hnext with ⟨y, hy, hacked⟩ | hlater
      · exact Or.inl ⟨y, List.mem_cons_of_mem r hy, hacked⟩
      · exact Or.inr hlater

/-- What was received is acknowledged, or the server remembers it. -/
theorem received_pending {rs : List (Round σ)} (hallows : srv.Allows service rs) {x : Round σ}
    (hx : x ∈ rs) {e : Entry} (he : e ∈ x.entries) :
    (∃ y ∈ rs, e.id ∈ y.acknowledged service) ∨ e ∈ (srv.afterAll service rs).pending := by
  obtain ⟨pre, post, rfl⟩ := List.append_of_mem hx
  have hanswers := hallows pre x post rfl
  by_cases hack : e.id ∈ x.acknowledged service
  · exact Or.inl ⟨x, hx, hack⟩
  · have hnext : e ∈ ((srv.afterAll service pre).after service x).pending := by
      refine List.mem_filter.mpr ⟨?_, by simpa using hack⟩
      unfold Answers at hanswers
      split at hanswers
      · exact hanswers.1.subset he
      · exact List.mem_append_right _ he
    rcases pending_kept post hnext with ⟨y, hy, hacked⟩ | hlater
    · exact Or.inl ⟨y, by simp [hy], hacked⟩
    · refine Or.inr ?_
      unfold afterAll at hlater ⊢
      rw [List.foldl_append]
      exact hlater

/-- The server answers round by round. -/
theorem allows_cons {r : Round σ} {rest : List (Round σ)} (hfirst : srv.Answers r)
    (hrest : (srv.after service r).Allows service rest) : srv.Allows service (r :: rest) := by
  intro pre x post heq
  cases pre with
  | nil =>
    obtain ⟨rfl, _⟩ := List.cons.inj heq
    exact hfirst
  | cons y pre =>
    obtain ⟨rfl, htail⟩ := List.cons.inj heq
    exact hrest pre x post htail

theorem allows_nil : srv.Allows service [] := by
  intro pre x post heq
  exact absurd heq (by simp)

theorem Allows.front {pre post : List (Round σ)} (h : srv.Allows service (pre ++ post)) :
    srv.Allows service pre := by
  intro first x since heq
  exact h first x (since ++ post) (by rw [heq, List.append_assoc]; rfl)

variable (service srv) in
/-- The ids received are among those given. -/
theorem given_afterAll (rs : List (Round σ)) {x : Round σ} (hx : x ∈ rs) {e : Entry}
    (he : e ∈ x.entries) : e.id ∈ (srv.afterAll service rs).given := by
  have hmono : ∀ (rs : List (Round σ)) (srv : Server), srv.given ⊆ (srv.afterAll service rs).given := by
    intro rs
    induction rs with
    | nil => exact fun srv => List.Subset.refl _
    | cons r rest ih =>
      exact fun srv => List.Subset.trans (List.subset_append_left _ _) (ih (srv.after service r))
  obtain ⟨pre, post, rfl⟩ := List.append_of_mem hx
  unfold afterAll
  rw [List.foldl_append]
  exact hmono post _ (List.mem_append_right _ (List.mem_map_of_mem he))

end Server

/-! ## Old entries before new ones -/

section OldFirst

variable {service : Service σ} {srv : Server} {turns : List Turn} {c : Consumer σ}
  {pre post : List (Round σ)} {r : Round σ}

/-- Where an empty read found no old entries, everything received is acknowledged. -/
theorem acked_of_drained (hallows : srv.Allows service (pre ++ [r]))
    (hcursor : r.consumer.cursor = .pending) (hdrained : r.drained) {x : Round σ} (hx : x ∈ pre)
    {e : Entry} (he : e ∈ x.entries) : ∃ y ∈ pre, e.id ∈ y.acknowledged service := by
  have hanswers := hallows pre r [] rfl
  unfold Server.Answers at hanswers
  rw [hcursor] at hanswers
  rcases Server.received_pending hallows.front hx he with hacked | hpending
  · exact hacked
  · rw [hanswers.2 hdrained] at hpending
    exact absurd hpending (by simp)

/-- The rounds in front of a read of new entries end with reads of new entries, none of them
abandoned, behind an empty read of the old ones. -/
theorem fresh_split (hc : c.cursor = .pending)
    (h : Consumer.rounds service turns c = pre ++ r :: post)
    (hfresh : r.consumer.cursor = .fresh) :
    ∃ first e since, pre = first ++ e :: since ∧ e.consumer.cursor = .pending ∧ e.drained ∧
      ∀ x ∈ since, x.consumer.cursor = .fresh ∧ (x.delivery service).abandoned = false := by
  obtain ⟨first, e, since, rfl, hcursor, hdrained, hsince⟩ :=
    (Consumer.cursor_fresh_iff hc h).mp hfresh
  refine ⟨first, e, since, rfl, hcursor, hdrained, ?_⟩
  intro x hx
  refine ⟨?_, hsince x hx⟩
  obtain ⟨front, back, rfl⟩ := List.append_of_mem hx
  have hsplit : Consumer.rounds service turns c =
      (first ++ e :: front) ++ x :: (back ++ r :: post) := by
    rw [h]
    simp
  refine (Consumer.cursor_fresh_iff hc hsplit).mpr ⟨first, e, front, rfl, hcursor, hdrained, ?_⟩
  intro y hy
  exact hsince y (List.mem_append_left _ hy)

/-- An entry that was read as a new one is acknowledged in that round or, as long as new entries are
read, never. -/
theorem acknowledged_at_once {old recent : List (Round σ)} {x : Round σ}
    (hallows : srv.Allows service (old ++ x :: recent)) (hx : x.consumer.cursor = .fresh)
    (hrecent : ∀ y ∈ recent, y.consumer.cursor = .fresh) {e : Entry} (he : e ∈ x.entries)
    {y : Round σ} (hy : y ∈ old ++ x :: recent) (hack : e.id ∈ y.acknowledged service) :
    x.turn.ackFailure = none := by
  obtain ⟨hacked, hnone⟩ := Round.acked_of_acknowledged hack
  obtain ⟨e', he', hid⟩ := Round.mem_entries_of_acked hacked
  rcases List.mem_append.mp hy with hold | hlater
  · -- its id was not given before it was read
    have hanswers := hallows old x recent rfl
    unfold Server.Answers at hanswers
    rw [hx] at hanswers
    have hgiven := Server.given_afterAll service srv old hold he'
    rw [hid] at hgiven
    exact absurd hgiven (hanswers.2 e he)
  · rcases List.mem_cons.mp hlater with rfl | hlater
    · exact hnone
    · -- a later read of new entries does not give it again
      obtain ⟨front, back, rfl⟩ := List.append_of_mem hlater
      have hanswers := hallows (old ++ x :: front) y back (by simp)
      unfold Server.Answers at hanswers
      rw [hrecent y hlater] at hanswers
      have hgiven := Server.given_afterAll service srv (old ++ x :: front)
        (show x ∈ old ++ x :: front by simp) he
      rw [← hid] at hgiven
      exact absurd hgiven (hanswers.2 e' he')

end OldFirst

/-- Whatever a server that respects the group answers: where the consumer reads new entries, every
entry it has received is acknowledged exactly if every acknowledgment got through in the reads of new
entries up to there. One that failed in these reads leaves its entries to be given again, behind
entries that are newer; one that failed in a read of old entries is made up for. -/
theorem acked_before_fresh_iff (service : Service σ) (config : ConsumerConfig) (s : σ)
    (groupFailure : Option StreamError) (turns : List Turn) (srv : Server)
    {pre post : List (Round σ)} {r : Round σ}
    (h : (Consumer.ofConfig config s).subscription service groupFailure turns = pre ++ r :: post)
    (hallows : srv.Allows service (pre ++ r :: post)) (hfresh : r.consumer.cursor = .fresh) :
    (∀ x ∈ pre, ∀ e ∈ x.entries, ∃ y ∈ pre,
        e.id ∈ (y.delivery service).acked ∧ y.turn.ackFailure = none) ↔
      ∀ old recent, pre = old ++ recent → (∀ x ∈ recent, x.consumer.cursor = .fresh) →
        ∀ x ∈ recent, x.entries ≠ [] → x.turn.ackFailure = none := by
  obtain ⟨state, hrounds⟩ := Consumer.rounds_of_subscription service h
  have hallowed : srv.Allows service pre := hallows.front
  constructor
  · -- an entry read as new in this stretch was acknowledged in the round that read it, or never
    intro hacked old recent hpre hrecent x hx hne
    obtain ⟨e, he⟩ := List.exists_mem_of_ne_nil x.entries hne
    obtain ⟨front, back, rfl⟩ := List.append_of_mem hx
    have hsplit : pre = (old ++ front) ++ x :: back := by rw [hpre, List.append_assoc]
    obtain ⟨y, hy, hid, hnone⟩ := hacked x (by rw [hsplit]; simp) e he
    rw [hsplit] at hallowed hy
    have hack : e.id ∈ y.acknowledged service := by
      unfold Round.acknowledged
      rw [hnone]
      exact hid
    exact acknowledged_at_once hallowed (hrecent x hx)
      (fun z hz => hrecent z (by simp [hz])) he hy hack
  · -- the empty read accounts for what was received before it, the rounds since for the rest
    intro hthrough x hx e he
    obtain ⟨first, d, since, rfl, hcursor, hdrained, hsince⟩ := fresh_split rfl hrounds hfresh
    have hback : ∀ y ∈ since, y.entries ≠ [] → y.turn.ackFailure = none :=
      hthrough (first ++ [d]) since (by simp) fun y hy => (hsince y hy).1
    suffices hack : ∃ y ∈ first ++ d :: since, e.id ∈ y.acknowledged service by
      obtain ⟨y, hy, hid⟩ := hack
      exact ⟨y, hy, Round.acked_of_acknowledged hid⟩
    rcases List.mem_append.mp hx with hx | hx
    · have hfront : srv.Allows service ((first ++ [d]) ++ since) := by rwa [List.append_assoc]
      obtain ⟨y, hy, hid⟩ := acked_of_drained hfront.front hcursor hdrained hx he
      exact ⟨y, List.mem_append_left _ hy, hid⟩
    · rcases List.mem_cons.mp hx with rfl | hx
      · rw [Round.entries_of_drained hdrained] at he
        exact absurd he (by simp)
      · -- read as a new entry, in a batch that was not abandoned
        have hnone := hback x hx (List.ne_nil_of_mem he)
        exact ⟨x, by simp [hx], Round.acknowledged_complete (hsince x hx).2 hnone he⟩

/-- A service that does what it is asked and keeps no state. -/
def obliging : Service Unit where
  createThing _ _ _ s := (s, none)
  updateThing _ _ _ s := (s, none)
  removeThing _ s := (s, none)
  createChannel _ _ s := (s, none)
  removeChannel _ s := (s, none)
  publish _ s := (s, none)
  note _ s := s

/-- The old entries are none, a new one is read and acknowledged, or not, and then nothing more. -/
def oneEntry (ackFailure : Option StreamError) : List Turn :=
  [{ reply := .entries [] }, { reply := .entries [⟨"1-0", []⟩], ackFailure },
    { reply := .entries [] }]

/-- The rounds of that run. -/
def oneEntryRounds (ackFailure : Option StreamError) : List (Round Unit) :=
  (Consumer.ofConfig {} ()).subscription obliging none (oneEntry ackFailure)

theorem oneEntryRounds_eq (ackFailure : Option StreamError) :
    ∃ x y z, oneEntryRounds ackFailure = [x, y, z] ∧ x.entries = [] ∧ x.consumer.cursor = .pending ∧
      y.entries = [⟨"1-0", []⟩] ∧ y.consumer.cursor = .fresh ∧ y.turn.ackFailure = ackFailure ∧
      z.entries = [] ∧ z.consumer.cursor = .fresh := by
  cases ackFailure <;> exact ⟨_, _, _, rfl, rfl, rfl, rfl, rfl, rfl, rfl, rfl⟩

/-- A server without entries may answer so, however the acknowledgment ends. -/
theorem oneEntry_allowed (ackFailure : Option StreamError) :
    ({} : Server).Allows obliging (oneEntryRounds ackFailure) := by
  obtain ⟨x, y, z, heq, hx, hxc, hy, hyc, _, hz, hzc⟩ := oneEntryRounds_eq ackFailure
  rw [heq]
  refine Server.allows_cons ?_ (Server.allows_cons ?_ (Server.allows_cons ?_ Server.allows_nil))
  · unfold Server.Answers
    rw [hxc, hx]
    exact ⟨List.nil_prefix, fun _ => rfl⟩
  · unfold Server.Answers Server.after
    rw [hyc, hy, hx]
    simp
  · unfold Server.Answers
    rw [hzc, hz]
    simp

/-- If the acknowledgment of the new entry fails, the next read is one of new entries all the same:
the entry is received and not acknowledged. -/
theorem unacked_before_fresh :
    ∃ pre r, oneEntryRounds (some (.signalled "ResponseError" none)) = pre ++ [r] ∧
      ({} : Server).Allows obliging (pre ++ [r]) ∧ r.consumer.cursor = .fresh ∧
      ∃ x ∈ pre, ∃ e ∈ x.entries, ∀ y ∈ pre,
        e.id ∈ (y.delivery obliging).acked → y.turn.ackFailure ≠ none := by
  obtain ⟨x, y, z, heq, hx, _, hy, _, hfailure, _, hzc⟩ :=
    oneEntryRounds_eq (some (.signalled "ResponseError" none))
  have hallows := oneEntry_allowed (some (.signalled "ResponseError" none))
  rw [heq] at hallows
  refine ⟨[x, y], z, heq, hallows, hzc, y, by simp, ⟨"1-0", []⟩, by simp [hy], ?_⟩
  intro w hw hacked
  rcases List.mem_cons.mp hw with rfl | hw
  · obtain ⟨e, he, _⟩ := Round.mem_entries_of_acked hacked
    rw [hx] at he
    exact absurd he (by simp)
  · rw [List.mem_singleton.mp hw, hfailure]
    simp

/-- If it gets through, the entry is acknowledged when the next new ones are read. -/
theorem acked_before_fresh_oneEntry :
    ∃ pre r, oneEntryRounds none = pre ++ [r] ∧
      ({} : Server).Allows obliging (pre ++ [r]) ∧ r.consumer.cursor = .fresh ∧
      ∀ x ∈ pre, ∀ e ∈ x.entries, ∃ y ∈ pre,
        e.id ∈ (y.delivery obliging).acked ∧ y.turn.ackFailure = none := by
  obtain ⟨x, y, z, heq, hx, _, _, _, hnone, _, hzc⟩ := oneEntryRounds_eq none
  have hallows := oneEntry_allowed none
  rw [heq] at hallows
  have hrun : (Consumer.ofConfig {} ()).subscription obliging none (oneEntry none) =
    [x, y] ++ z :: [] := heq
  refine ⟨[x, y], z, heq, hallows, hzc, ?_⟩
  refine (acked_before_fresh_iff obliging {} () none (oneEntry none) {} hrun hallows hzc).mpr ?_
  intro old recent hpre _ w hw hne
  have hmem : w ∈ [x, y] := by
    rw [hpre]
    exact List.mem_append_right _ hw
  rcases List.mem_cons.mp hmem with rfl | hmem
  · exact absurd hx hne
  · rw [List.mem_singleton.mp hmem, hnone]

end TableFeed
