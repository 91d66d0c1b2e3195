import TableFeed.Proofs.Registry.Batches
import TableFeed.Proofs.Source.Increments

/-!
# The publications of a file

A feed of a file is put in, one poller reads it, and the file grows by complete records. Readings may
fail and the publisher may refuse any message. The reports of the poller split into publications: a batch
of rows, the messages of it that were accepted, and those that were not sent.

* **`Publishes`** — the invariant: put together, the batches are the rows that the reader has given, and
  of every batch but the last the messages not sent stand behind one that was refused.
* **`Publishes.step`** — the crux: every turn keeps to it (one case for each of `Pace`).
* **`publishes_run`** — so does every run, as long as no second poller reads the file.
-/

namespace TableFeed

variable {π : Type}

/-- A batch that a poller took, and what became of its messages. -/
structure Publication where
  rows : List Row
  sent : List (String × Message)
  unsent : List (String × Message)
  /-- The first message that was not sent was refused. -/
  refused : Bool

namespace Publication

/-- The reports of a publication. -/
def reports (x : Publication) : List Report :=
  .batch x.rows :: (x.sent.map .accepted ++
    if x.refused then x.unsent.head?.toList.map .refused else [])

/-- Nothing more is sent of it: a message was refused, or none is left. -/
def Over (x : Publication) : Prop :=
  x.refused = true ∨ x.unsent = []

/-- What was sent and what was not are the messages of its rows. -/
structure Of (thing channel : String) (x : Publication) : Prop where
  messages : x.sent ++ x.unsent = fanOut thing channel x.rows
  refused : x.refused = true → x.unsent ≠ []

end Publication

/-- The messages that were accepted. -/
def Report.accepted? : Report → Option (String × Message)
  | .accepted m => some m
  | _ => none

theorem Publication.accepted_reports (x : Publication) :
    x.reports.filterMap Report.accepted? = x.sent := by
  have hsent : (x.sent.map Report.accepted).filterMap Report.accepted? = x.sent := by
    rw [List.filterMap_map]
    exact List.filterMap_some
  have hrefused : ∀ l : List (String × Message),
      (l.map Report.refused).filterMap Report.accepted? = [] := by
    intro l
    rw [List.filterMap_map]
    exact List.filterMap_eq_nil_iff.mpr fun m _ => rfl
  show (x.sent.map Report.accepted ++ _).filterMap Report.accepted? = _
  rw [List.filterMap_append, hsent]
  split
  · rw [hrefused, List.append_nil]
  · exact List.append_nil _

theorem fanOut_flatMap (thing channel : String) (pubs : List Publication) :
    fanOut thing channel (pubs.flatMap (·.rows)) =
      pubs.flatMap fun x => fanOut thing channel x.rows := by
  induction pubs with
  | nil => rfl
  | cons x rest ih => rw [List.flatMap_cons, List.flatMap_cons, fanOut_append, ih]

/-- The messages that a poller is about to publish. -/
def Registry.left (r : Registry) (p : Nat) : List (String × Message) :=
  match r.underWay p with
  | some (_, rest) => rest
  | none => []

/-- A reading that does not fail gives all rows that are left. -/
theorem FileReader.read_data {r y : FileReader} {k : Nat} {content : List UInt8} {files : Files}
    {rows : List Row} (hk : k ≤ (r.dataRows content).length)
    (hfinds : ∀ found, files.read r.fileName = .ok found → found = content)
    (h : FileReader.read { r with position := k } files = (y, .ok rows)) :
    y = { r with position := (r.dataRows content).length } ∧ rows = (r.dataRows content).drop k := by
  unfold FileReader.read at h
  split at h
  · cases (Prod.mk.inj h).2
  · rename_i found hfound
    rw [hfinds found hfound] at h
    rcases FileReader.readContent_data hk with ⟨-, e, herror⟩ | hok
    · rw [herror] at h
      cases (Prod.mk.inj h).2
    · rw [hok] at h
      obtain ⟨hy, hrows⟩ := Prod.mk.inj h
      exact ⟨hy.symm, (Except.ok.inj hrows).symm⟩

namespace Guarded

/-- The file only grows, by complete records, and whoever can read it finds what it holds. -/
structure Grows [Publisher π] (path : String) (content : Nat → List UInt8) (turns : List (Turn π))
    (s : Guarded π) : Prop where
  complete : ∀ m, Csv.Complete (content m)
  appends : ∀ m, content m <+: content (m + 1)
  finds : ∀ m ≤ turns.length, ∀ found,
    (run (turns.take m) s).adapter.surroundings.files.read path = .ok found → found = content m

/-- A poller has taken and published so much of a file. -/
structure Publishes (s : Guarded π) (p n : Nat) (r : FileReader) (thing channel : String)
    (content : List UInt8) (seen : List Report) (pubs : List Publication) (k : Nat) : Prop where
  reader : s.reader? n = some (.file { r with position := k })
  within : k ≤ (r.dataRows content).length
  seen : seen = pubs.flatMap Publication.reports
  rows : pubs.flatMap (·.rows) = (r.dataRows content).take k
  messages : ∀ x ∈ pubs, x.Of thing channel
  idle : s.adapter.registry.underWay p = none → ∀ x ∈ pubs, x.Over
  busy : ∀ batch rest, s.adapter.registry.underWay p = some (batch, rest) → ∃ front last,
    pubs = front ++ [last] ∧ (∀ x ∈ front, x.Over) ∧ last.unsent = rest ∧ last.refused = false

variable {s : Guarded π} {p n k : Nat} {r : FileReader} {thing channel : String}
  {content content' : List UInt8} {seen : List Report} {pubs : List Publication}

/-- A file that grows keeps the rows that were taken. -/
theorem Publishes.grow (h : Publishes s p n r thing channel content seen pubs k)
    (hcomplete : Csv.Complete content) (hgrows : content <+: content') :
    Publishes s p n r thing channel content' seen pubs k := by
  obtain ⟨more, rfl⟩ := hgrows
  obtain ⟨rows, hrows⟩ := r.dataRows_prefix hcomplete more
  refine { h with within := ?_, rows := ?_ }
  · rw [← hrows, List.length_append]
    exact Nat.le_add_right_of_le h.within
  · rw [← hrows, List.take_append_of_le_length h.within]
    exact h.rows

theorem Publishes.accepted (h : Publishes s p n r thing channel content seen pubs k) :
    seen.filterMap Report.accepted? = pubs.flatMap (·.sent) := by
  rw [h.seen, List.filterMap_flatMap]
  simp only [Publication.accepted_reports]

/-- What was accepted stands in the order of the rows, no message twice. -/
theorem Publishes.sublist (h : Publishes s p n r thing channel content seen pubs k) :
    (seen.filterMap Report.accepted?).Sublist
      (fanOut thing channel ((r.dataRows content).take k)) := by
  have hsent : ∀ l : List Publication, (∀ x ∈ l, x.Of thing channel) →
      (l.flatMap (·.sent)).Sublist (l.flatMap fun x => fanOut thing channel x.rows) := by
    intro l hl
    induction l with
    | nil => exact List.Sublist.refl _
    | cons x rest ih =>
      rw [List.flatMap_cons, List.flatMap_cons]
      refine List.Sublist.append ?_ (ih fun y hy => hl y (List.mem_cons_of_mem _ hy))
      rw [← (hl x List.mem_cons_self).messages]
      exact List.sublist_append_left _ _
  rw [h.accepted, ← h.rows, fanOut_flatMap]
  exact hsent pubs h.messages

/-- Without a refusal everything that was taken is sent or about to be sent. -/
theorem Publishes.gapless (h : Publishes s p n r thing channel content seen pubs k)
    (hnone : ∀ m, Report.refused m ∉ seen) :
    seen.filterMap Report.accepted? ++ s.adapter.registry.left p =
      fanOut thing channel ((r.dataRows content).take k) := by
  have hopen : ∀ x ∈ pubs, x.refused = false := by
    intro x hx
    cases hrefused : x.refused with
    | false => rfl
    | true =>
      -- it would have been seen that its first unsent message was refused
      obtain ⟨m, rest, hunsent⟩ := List.exists_cons_of_ne_nil ((h.messages x hx).refused hrefused)
      refine absurd ?_ (hnone m)
      rw [h.seen]
      refine List.mem_flatMap.mpr ⟨x, hx, ?_⟩
      simp [Publication.reports, hrefused, hunsent]
  have hall : ∀ x ∈ pubs, x.Over → x.sent = fanOut thing channel x.rows := by
    intro x hx hover
    have hunsent : x.unsent = [] := hover.resolve_left (by rw [hopen x hx]; simp)
    rw [← (h.messages x hx).messages, hunsent, List.append_nil]
  have hsent : ∀ l : List Publication, (∀ x ∈ l, x ∈ pubs ∧ x.Over) →
      l.flatMap (·.sent) = l.flatMap fun x => fanOut thing channel x.rows := by
    intro l hl
    exact List.flatMap_congr fun x hx => hall x (hl x hx).1 (hl x hx).2
  rw [h.accepted, ← h.rows, fanOut_flatMap]
  cases hway : s.adapter.registry.underWay p with
  | none =>
    rw [Registry.left, hway, hsent pubs fun x hx => ⟨hx, h.idle hway x hx⟩, List.append_nil]
  | some way =>
    obtain ⟨batch, rest⟩ := way
    obtain ⟨front, last, rfl, hfront, hunsent, -⟩ := h.busy batch rest hway
    have hlast := (h.messages last (List.mem_append_right _ (List.mem_singleton_self _))).messages
    rw [Registry.left, hway, List.flatMap_append, List.flatMap_append,
      hsent front fun x hx => ⟨List.mem_append_left _ hx, hfront x hx⟩, List.append_assoc,
      List.flatMap_singleton, List.flatMap_singleton, ← hlast, hunsent]

variable [Publisher π]

/-- The last publication goes on, and the others are over. -/
theorem Publishes.goOn {front : List Publication} {last : Publication} {t : Turn π}
    (h : Publishes s p n r thing channel content seen (front ++ [last]) k) (last' : Publication)
    (hfront : ∀ x ∈ front, x.Over) (hrows : last'.rows = last.rows) (hof : last'.Of thing channel)
    (hreports : last'.reports = last.reports ++ s.report p t)
    (hreader : (s.step t).reader? n = some (.file { r with position := k }))
    (hidle : (s.step t).adapter.registry.underWay p = none → last'.Over)
    (hbusy : ∀ batch rest, (s.step t).adapter.registry.underWay p = some (batch, rest) →
      last'.unsent = rest ∧ last'.refused = false) :
    Publishes (s.step t) p n r thing channel content (seen ++ s.report p t) (front ++ [last']) k where
  reader := hreader
  within := h.within
  seen := by
    rw [h.seen, List.flatMap_append, List.flatMap_append, List.append_assoc, List.flatMap_singleton,
      List.flatMap_singleton, hreports]
  rows := by
    rw [← h.rows, List.flatMap_append, List.flatMap_append, List.flatMap_singleton,
      List.flatMap_singleton, hrows]
  messages := List.forall_mem_append.mpr
    ⟨fun x hx => h.messages x (List.mem_append_left _ hx), List.forall_mem_singleton.mpr hof⟩
  idle hnone := List.forall_mem_append.mpr ⟨hfront, List.forall_mem_singleton.mpr (hidle hnone)⟩
  busy batch rest hsome := ⟨front, last', rfl, hfront, hbusy batch rest hsome⟩

/-- A batch that a poller takes is a new publication, of which nothing is sent yet. -/
theorem Publishes.take {t : Turn π} {batch : Batch} {rows : List Row}
    (h : Publishes s p n r thing channel content seen pubs k)
    (hbefore : s.adapter.registry.underWay p = none) (hrows : rows = (r.dataRows content).drop k)
    (hreport : s.report p t = [.batch rows])
    (hreader : (s.step t).reader? n =
      some (.file { r with position := (r.dataRows content).length }))
    (hway : (s.step t).adapter.registry.underWay p = some (batch, fanOut thing channel rows)) :
    Publishes (s.step t) p n r thing channel content (seen ++ s.report p t)
      (pubs ++ [⟨rows, [], fanOut thing channel rows, false⟩]) (r.dataRows content).length where
  reader := hreader
  within := Nat.le_refl _
  seen := by
    rw [hreport, h.seen, List.flatMap_append]
    rfl
  rows := by
    rw [List.flatMap_append, h.rows, List.take_length, List.flatMap_singleton, hrows,
      List.take_append_drop]
  messages := List.forall_mem_append.mpr ⟨h.messages,
    List.forall_mem_singleton.mpr ⟨rfl, fun hfalse => by cases hfalse⟩⟩
  idle hnone := by
    rw [hway] at hnone
    cases hnone
  busy batch rest hsome := by
    rw [hway] at hsome
    obtain ⟨-, rfl⟩ := Prod.mk.inj (Option.some.inj hsome)
    exact ⟨pubs, _, rfl, h.idle hbefore, rfl, rfl⟩

/-- Every turn keeps to the split into publications. -/
theorem Publishes.step {t : Turn π} (h : Publishes s p n r thing channel content seen pubs k)
    (hpace : Pace s t p n { r with position := k })
    (hnamed : ∀ q, s.adapter.registry.pollers[p]? = some q → q.thing = thing ∧ q.channel = channel)
    (hfinds : ∀ found, s.adapter.surroundings.files.read r.fileName = .ok found → found = content) :
    ∃ pubs' k', Publishes (s.step t) p n r thing channel content (seen ++ s.report p t) pubs' k' := by
  cases hpace with
  | still hreport hway hreader =>
    -- nothing is seen, and what is under way stays
    refine ⟨pubs, k, { h with reader := hreader, seen := ?_, idle := ?_, busy := ?_ }⟩
    · rw [hreport, List.append_nil, h.seen]
    · rw [hway]
      exact h.idle
    · rw [hway]
      exact h.busy
  | took q y rows kind hreport hbefore hq hread hway hreader =>
    obtain ⟨rfl, rfl⟩ := hnamed q hq
    obtain ⟨rfl, hrows⟩ := FileReader.read_data h.within hfinds hread
    exact ⟨_, _, h.take hbefore hrows hreport hreader hway⟩
  | ended batch hreport hbefore hway hreader =>
    obtain ⟨front, last, rfl, hfront, hunsent, -⟩ := h.busy batch [] hbefore
    have hlast := h.messages last (List.mem_append_right _ (List.mem_singleton_self _))
    -- the last publication is over since all of it was sent
    refine ⟨_, k, h.goOn last hfront rfl hlast ?_ hreader (fun _ => .inr hunsent) ?_⟩
    · rw [hreport, List.append_nil]
    · intro _ _ hsome
      rw [hway] at hsome
      cases hsome
  | accepted batch m rest hreport hbefore hway hreader =>
    obtain ⟨front, last, rfl, hfront, hunsent, hrefused⟩ := h.busy batch (m :: rest) hbefore
    have hlast := h.messages last (List.mem_append_right _ (List.mem_singleton_self _))
    -- the first of the messages not sent becomes the last of those sent
    refine ⟨_, k, h.goOn { last with sent := last.sent ++ [m], unsent := rest } hfront rfl
      ⟨?_, ?_⟩ ?_ hreader ?_ ?_⟩
    · show last.sent ++ [m] ++ rest = _
      rw [List.append_assoc, ← hlast.messages, hunsent]
      rfl
    · intro hfalse
      simp [hrefused] at hfalse
    · simp [Publication.reports, hrefused, hreport]
    · intro hnone
      rw [hway] at hnone
      cases hnone
    · intro b l hsome
      rw [hway] at hsome
      obtain ⟨-, rfl⟩ := Prod.mk.inj (Option.some.inj hsome)
      exact ⟨rfl, hrefused⟩
  | refused batch m rest hreport hbefore hway hreader =>
    obtain ⟨front, last, rfl, hfront, hunsent, hrefused⟩ := h.busy batch (m :: rest) hbefore
    have hlast := h.messages last (List.mem_append_right _ (List.mem_singleton_self _))
    -- the rest of the batch is given up
    refine ⟨_, k, h.goOn { last with refused := true } hfront rfl
      ⟨hlast.messages, ?_⟩ ?_ hreader (fun _ => .inl rfl) ?_⟩
    · intro _
      show last.unsent ≠ []
      simp [hunsent]
    · simp [Publication.reports, hrefused, hunsent, hreport]
    · intro _ _ hsome
      rw [hway] at hsome
      cases hsome

end Guarded

/-! ## Whose publications they are -/

namespace Registry

/-- A source is the one of a feed, or of a feed that was there, and of its pollers. -/
structure Serves (r : Registry) (n : Nat) (id channel : String) : Prop where
  bound : n < r.sources.length
  feeds : ∀ (i : String) (f : Feed), r.feed? i = some f → f.source = n → i = id ∧ f.channel = channel
  pollers : ∀ (p : Nat) (q : Poller), r.pollers[p]? = some q → q.source = n →
    q.thing = id ∧ q.channel = channel

theorem Serves.change {r r' : Registry} {n : Nat} {id channel : String} (hs : r.Serves n id channel)
    (h : Change r r') : r'.Serves n id channel where
  bound := Nat.lt_of_lt_of_le hs.bound h.sources_length
  feeds := by
    intro i f' hf' hn
    rcases h.feed_cases hf' with ⟨f, hf, hsource, hchannel⟩ | hnew
    · rw [hchannel]
      exact hs.feeds i f hf (hsource.symm.trans hn)
    · have hbound := hs.bound
      omega
  pollers := by
    intro p q' hq' hn
    rcases h.poller_cases hq' with ⟨q, hq, hfollows⟩ | ⟨-, -, f, hf, hsource, hchannel⟩
    · rw [hfollows.thing, hfollows.channel]
      exact hs.pollers p q hq (hfollows.source.symm.trans hn)
    · rw [hchannel]
      exact hs.feeds q'.thing f hf (hsource.symm.trans hn)

end Registry

namespace Guarded

/-- A feed of a file that nobody reads yet. -/
structure Fresh (s : Guarded π) (id : String) (f : Feed) (r : FileReader) : Prop where
  feed : s.adapter.registry.feed? id = some f
  reader : s.reader? f.source = some (.file r)
  unread : ∀ (p : Nat) (q : Poller), s.adapter.registry.pollers[p]? = some q → q.source ≠ f.source

variable {s : Guarded π} {id : String} {f : Feed} {r : FileReader}

theorem Fresh.serves (h : Fresh s id f r) (hwired : s.adapter.registry.Wired) :
    s.adapter.registry.Serves f.source id f.channel where
  bound := hwired.bound id f h.feed
  feeds := by
    intro i g hg hsource
    obtain rfl : i = id := hwired.own i id g f hg h.feed hsource
    rw [Option.some.inj (hg.symm.trans h.feed)]
    exact ⟨rfl, rfl⟩
  pollers p q hq hsource := absurd hsource (h.unread p q hq)

theorem Fresh.publishes (h : Fresh s id f r) (hfirst : r.position = 0) (p : Nat)
    (honly : ∀ q : Poller, s.adapter.registry.pollers[p]? = some q → q.source = f.source)
    (content : List UInt8) :
    Publishes s p f.source r id f.channel content [] [] 0 := by
  have hnone : s.adapter.registry.pollers[p]? = none := by
    cases hq : s.adapter.registry.pollers[p]? with
    | none => rfl
    | some q => exact absurd (honly q hq) (h.unread p q hq)
  refine ⟨?_, Nat.zero_le _, rfl, rfl, List.forall_mem_nil _, fun _ => List.forall_mem_nil _, ?_⟩
  · rw [← hfirst]
    exact h.reader
  · intro batch rest hsome
    simp [Registry.underWay, hnone] at hsome

variable [Publisher π]

theorem follows_run (turns : List (Turn π)) (s : Guarded π) :
    s.adapter.registry.Follows (run turns s).adapter.registry := by
  induction turns generalizing s with
  | nil => exact Registry.Follows.refl _
  | cons t rest ih => exact (change_step s t).follows.trans (ih (s.step t))

/-- What is so of a registry and outlives every change is so after every run from it. -/
theorem run_of_change {P : Registry → Prop}
    (hchange : ∀ {r r' : Registry}, P r → r.Change r' → P r') (turns : List (Turn π))
    (h : P s.adapter.registry) : P (run turns s).adapter.registry := by
  induction turns generalizing s with
  | nil => exact h
  | cons t rest ih => exact ih (hchange h (change_step s t))

/-- What a run reports of a poller. -/
def reports (p : Nat) (turns : List (Turn π)) (s : Guarded π) : List Report :=
  history (report p) turns s

/-- A file that grows in a run grows in all but the last turn of it. -/
theorem Grows.init {path : String} {content : Nat → List UInt8} {turns : List (Turn π)} {t : Turn π}
    (h : Grows path content (turns ++ [t]) s) : Grows path content turns s where
  complete := h.complete
  appends := h.appends
  finds := by
    intro m hm found hfound
    have htake : (turns ++ [t]).take m = turns.take m := List.take_append_of_le_length hm
    rw [← htake] at hfound
    exact h.finds m (by rw [List.length_append]; omega) found hfound

/-- What a reading at the end of a run would find. -/
theorem Grows.last {path : String} {content : Nat → List UInt8} {turns : List (Turn π)}
    (h : Grows path content turns s) (found : List UInt8)
    (hfound : (run turns s).adapter.surroundings.files.read path = .ok found) :
    found = content turns.length := by
  apply h.finds turns.length (Nat.le_refl _) found
  rwa [List.take_length]

/-- After every run the reports are those of publications. -/
theorem publishes_run {content : Nat → List UInt8} {p n : Nat} {thing channel : String}
    (turns : List (Turn π)) (hserves : s.adapter.registry.Serves n thing channel)
    (hstart : Publishes s p n r thing channel (content 0) [] [] 0)
    (hgrows : Grows r.fileName content turns s)
    (honly : ∀ (k : Nat) (q : Poller), (run turns s).adapter.registry.pollers[k]? = some q →
      (q.source = n ↔ k = p)) :
    ∃ pubs k, Publishes (run turns s) p n r thing channel (content turns.length)
      (reports p turns s) pubs k := by
  induction turns using List.reverseRecOn with
  | nil => exact ⟨[], 0, hstart⟩
  | append_singleton turns t ih =>
    -- who reads the source at the end is the one who read it before
    have honly' : ∀ (k : Nat) (q : Poller), (run turns s).adapter.registry.pollers[k]? = some q →
        (q.source = n ↔ k = p) := by
      intro k q hq
      obtain ⟨q', hq', hfollows⟩ := (change_step (run turns s) t).follows k q hq
      rw [← run_concat] at hq'
      rw [← hfollows.source]
      exact honly k q' hq'
    obtain ⟨pubs, k, hpubs⟩ := ih hgrows.init honly'
    have hserves' : (run turns s).adapter.registry.Serves n thing channel :=
      run_of_change (P := fun r => r.Serves n thing channel) (fun h hchange => h.change hchange) turns
        hserves
    have hnamed : ∀ q, (run turns s).adapter.registry.pollers[p]? = some q →
        q.thing = thing ∧ q.channel = channel :=
      fun q hq => hserves'.pollers p q hq ((honly' p q hq).mpr rfl)
    obtain ⟨pubs', k', hpubs'⟩ := hpubs.step (pace hpubs.reader honly' t) hnamed hgrows.init.last
    refine ⟨pubs', k', ?_⟩
    rw [run_concat, reports, history_concat, List.length_append]
    exact hpubs'.grow (hgrows.complete _) (hgrows.appends _)

end Guarded

end TableFeed
