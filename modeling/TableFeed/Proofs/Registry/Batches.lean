import TableFeed.Proofs.Publishing.FanOut
import TableFeed.Proofs.Registry.Positions
import TableFeed.Proofs.Registry.Progress

/-!
# A poller and its batches

Seen from one poller a run is a list of reports: it took a batch of rows, a message was accepted, a
message was refused. `Pace` lists what one turn can do to the poller and to the file that it reads, if no
other poller reads that file.

* **`Phase.underWay`**, **`Registry.underWay`** — the batch that a poller is publishing.
* **`report`** — what a turn reports of a poller, read off the adapter and the publisher.
* **`answered`** — what is reported of messages is what the publisher answers when it is called on them.
* **`pace`** — the crux: every turn is one of `Pace`.
-/

namespace TableFeed

variable {π : Type}

/-- The batch that is published, with the messages that are left of it. -/
def Phase.underWay : Phase → Option (Batch × List (String × Message))
  | .publishing batch rest => some (batch, rest)
  | _ => none

namespace Registry

/-- The batch that a poller publishes, with the messages that are left of it. -/
def underWay (r : Registry) (p : Nat) : Option (Batch × List (String × Message)) :=
  (r.pollers[p]?).bind fun q => q.phase.underWay

variable {r r' : Registry} {p : Nat}

theorem underWay_of_some {q : Poller} (hq : r.pollers[p]? = some q) :
    r.underWay p = q.phase.underWay := by
  simp [underWay, hq]

theorem underWay_congr (h : r'.pollers[p]? = r.pollers[p]?) : r'.underWay p = r.underWay p := by
  simp [underWay, h]

theorem phase_of_underWay {batch : Batch} {rest : List (String × Message)}
    (h : r.underWay p = some (batch, rest)) :
    ∃ q, r.pollers[p]? = some q ∧ q.phase = .publishing batch rest := by
  obtain ⟨q, hq, hway⟩ := Option.bind_eq_some_iff.mp h
  refine ⟨q, hq, ?_⟩
  cases hphase : q.phase with
  | publishing b l =>
    rw [hphase] at hway
    obtain ⟨rfl, rfl⟩ := Prod.mk.inj (Option.some.inj hway)
    rfl
  | _ =>
    rw [hphase] at hway
    cases hway

theorem pollers_setPhase_ne {k : Nat} (h : k ≠ p) (phase : Phase) :
    (r.setPhase k phase).pollers[p]? = r.pollers[p]? := by
  show (r.pollers.modify k _)[p]? = _
  rw [List.getElem?_modify_ne _ _ h]

theorem underWay_setPhase {q : Poller} (hq : r.pollers[p]? = some q) (phase : Phase) :
    (r.setPhase p phase).underWay p = phase.underWay := by
  have hlt : p < r.pollers.length := (List.getElem?_eq_some_iff.mp hq).1
  apply underWay_of_some (q := { q with phase })
  rw [setPhase_pollers hq, List.getElem?_set_self hlt]

/-! ### Steps that publish nothing -/

theorem underWay_takeTick (r : Registry) (k : Nat) (now : Instant) (p : Nat) :
    (r.takeTick k now).underWay p = r.underWay p := by
  unfold takeTick
  split
  · rfl
  · rename_i q hq
    split
    · rename_i hphase
      split
      · by_cases hk : k = p
        · subst hk
          have hlt : k < r.pollers.length := (List.getElem?_eq_some_iff.mp hq).1
          rw [underWay_of_some hq, hphase, underWay_of_some (List.getElem?_set_self hlt)]
          rfl
        · exact underWay_congr (List.getElem?_set_ne hk)
      · rfl
    · rfl

theorem underWay_holdSource (r : Registry) (k p : Nat) :
    (r.holdSource k).underWay p = r.underWay p := by
  unfold holdSource
  split
  · rfl
  · rename_i q hq
    split
    · rename_i hphase _
      split
      · rfl
      · show (r.setPhase k .reading).underWay p = _
        by_cases hk : k = p
        · subst hk
          rw [underWay_setPhase hq, underWay_of_some hq, hphase]
          rfl
        · exact underWay_congr (pollers_setPhase_ne hk _)
    · rfl

theorem underWay_exit (r : Registry) (k p : Nat) : (r.exit k).underWay p = r.underWay p := by
  have hphase : ∀ q : Poller, q.exit.phase.underWay = q.phase.underWay := by
    intro q
    unfold Poller.exit
    split
    · rename_i h
      have hwaiting : q.phase = .waiting := by simp_all [Poller.exiting]
      simp [hwaiting, Phase.underWay]
    · rfl
  show ((r.pollers.modify k Poller.exit)[p]?).bind _ = _
  rw [List.getElem?_modify]
  cases hq : r.pollers[p]? with
  | none => simp [underWay, hq]
  | some q =>
    show (if k = p then q.exit else q).phase.underWay = _
    rw [underWay_of_some hq]
    split
    · exact hphase q
    · rfl

theorem underWay_finishReading_ne {k : Nat} (h : k ≠ p) (kind : ReaderKind) (reader : Reader)
    (result : Except ReadError (List Row)) :
    (r.finishReading k kind reader result).underWay p = r.underWay p := by
  unfold finishReading
  split
  · rfl
  · cases result with
    | error e => exact underWay_congr (pollers_setPhase_ne h _)
    | ok rows => exact underWay_congr (pollers_setPhase_ne h _)

/-- Calls leave pollers where they are, and a poller that is new waits. -/
theorem underWay_stands (hstands : Stands r r') (hchange : Change r r') :
    r'.underWay p = r.underWay p := by
  cases hq : r.pollers[p]? with
  | some q =>
    obtain ⟨q', hq', hphase, -⟩ := hstands.pollers p q hq
    rw [underWay_of_some hq, underWay_of_some hq', hphase]
  | none =>
    have hbefore : r.underWay p = none := by simp [underWay, hq]
    rw [hbefore]
    cases hq' : r'.pollers[p]? with
    | none => simp [underWay, hq']
    | some q' =>
      rcases hchange.poller_cases hq' with ⟨q, hq'', -⟩ | ⟨-, hphase, -⟩
      · rw [hq] at hq''
        cases hq''
      · rw [underWay_of_some hq', hphase]
        rfl

end Registry

/-! ## Reports -/

/-- What is seen of a poller. -/
inductive Report where
  | batch (rows : List Row)
  | accepted (m : String × Message)
  | refused (m : String × Message)
  deriving DecidableEq, Repr

namespace Adapter

/-- The rows that a poller gets if it ends its reading now. -/
def rows? (a : Adapter π) (p : Nat) : Option (List Row) :=
  match a.registry.pollers[p]? with
  | none => none
  | some q =>
    match q.phase, a.registry.sources[q.source]? with
    | .reading, some s => (s.reader.read a.surroundings).2.2.toOption
    | _, _ => none

/-- A poller that reads ends its reading with what its reader gives. -/
theorem finishReading_file {a : Adapter π} {p : Nat} {q : Poller} {source : Source} {x : FileReader}
    (hq : a.registry.pollers[p]? = some q) (hphase : q.phase = .reading)
    (hsource : a.registry.sources[q.source]? = some source) (hfile : source.reader = .file x) :
    a.rows? p = (x.read a.surroundings.files).2.toOption ∧
      (a.finishReading p).registry = a.registry.finishReading p a.kind
        (.file (x.read a.surroundings.files).1) (x.read a.surroundings.files).2 := by
  simp only [rows?, finishReading, hq, hphase, hsource, hfile, Reader.read, and_self]

/-- A poller that does not read has no reading to end. -/
theorem finishReading_idle {a : Adapter π} {p : Nat} {q : Poller}
    (hq : a.registry.pollers[p]? = some q) (hphase : q.phase ≠ .reading) :
    a.rows? p = none ∧ (a.finishReading p).registry = a.registry := by
  simp only [rows?, finishReading, hq]
  cases h : q.phase with
  | reading => exact absurd h hphase
  | _ => exact ⟨rfl, rfl⟩

theorem beginReading_surroundings (a : Adapter π) (p : Nat) :
    (a.beginReading p).surroundings = a.surroundings := by
  simp only [beginReading]
  split
  · split <;> rfl
  · rfl

variable [Publisher π]

/-- The publisher refuses a message now. -/
def refuses (a : Adapter π) (m : String × Message) : Bool :=
  (Publisher.publish a.publisher m.1 m.2).2.2.isSome

variable {a : Adapter π} {p : Nat} {batch : Batch} {rest : List (String × Message)}
  {m : String × Message}

theorem finishPublishing_publisher (a : Adapter π) (p : Nat) (q : Poller) (batch : Batch)
    (failure : Option Error) : (a.finishPublishing p q batch failure).publisher = a.publisher := by
  unfold finishPublishing
  cases q.traced <;> cases failure <;> rfl

theorem publishNext_of_none (h : a.registry.underWay p = none) : a.publishNext p = a := by
  unfold publishNext
  cases hq : a.registry.pollers[p]? with
  | none => rfl
  | some q =>
    rw [Registry.underWay_of_some hq] at h
    cases hphase : q.phase with
    | publishing batch rest =>
      rw [hphase] at h
      cases h
    | _ => simp [hphase]

theorem publishNext_of_nil (h : a.registry.underWay p = some (batch, [])) :
    (a.publishNext p).publisher = a.publisher ∧
      (a.publishNext p).registry = a.registry.setPhase p .waiting := by
  obtain ⟨q, hq, hphase⟩ := Registry.phase_of_underWay h
  simp only [publishNext, hq, hphase]
  exact ⟨finishPublishing_publisher a p q batch none, finishPublishing_registry a p q batch none⟩

/-- A poller that publishes calls the publisher on the next message. If that is refused, it waits again. -/
theorem publishNext_of_cons (h : a.registry.underWay p = some (batch, m :: rest)) {publisher : π}
    {lines : List LogLine} {answer : Option Error}
    (hcall : Publisher.publish a.publisher m.1 m.2 = (publisher, lines, answer)) :
    (a.publishNext p).publisher = publisher ∧ (a.publishNext p).registry =
      a.registry.setPhase p (if answer.isSome then .waiting else .publishing batch rest) := by
  obtain ⟨q, hq, hphase⟩ := Registry.phase_of_underWay h
  simp only [publishNext, publishMessage, hq, hphase, hcall]
  cases answer with
  | none => exact ⟨rfl, rfl⟩
  | some e =>
    exact ⟨finishPublishing_publisher _ p q batch (some e),
      finishPublishing_registry _ p q batch (some e)⟩

theorem publishNext_of_accepted (h : a.registry.underWay p = some (batch, m :: rest))
    (haccepts : a.refuses m = false) :
    (a.publishNext p).registry = a.registry.setPhase p (.publishing batch rest) := by
  exact (publishNext_of_cons h rfl).2.trans
    (congrArg (a.registry.setPhase p) (if_neg (Bool.eq_false_iff.mp haccepts)))

theorem publishNext_of_refused (h : a.registry.underWay p = some (batch, m :: rest))
    (hrefuses : a.refuses m = true) :
    (a.publishNext p).registry = a.registry.setPhase p .waiting := by
  exact (publishNext_of_cons h rfl).2.trans (congrArg (a.registry.setPhase p) (if_pos hrefuses))

theorem publishNext_ne {k : Nat} (h : k ≠ p) :
    (a.publishNext k).registry.underWay p = a.registry.underWay p := by
  have hset : ∀ phase, (a.registry.setPhase k phase).underWay p = a.registry.underWay p :=
    fun phase => Registry.underWay_congr (Registry.pollers_setPhase_ne h phase)
  cases hway : a.registry.underWay k with
  | none => rw [publishNext_of_none hway]
  | some way =>
    obtain ⟨batch, _ | ⟨m, rest⟩⟩ := way
    · rw [(publishNext_of_nil hway).2, hset]
    · cases hm : a.refuses m with
      | false => rw [publishNext_of_accepted hway hm, hset]
      | true => rw [publishNext_of_refused hway hm, hset]

end Adapter

namespace Guarded

/-- The reader of a source. -/
def reader? (s : Guarded π) (n : Nat) : Option Reader :=
  (s.adapter.registry.contents[n]?).map (·.1)

variable {s : Guarded π} {p n : Nat} {x : FileReader}

theorem reader?_eq_some_iff {x : Reader} :
    s.reader? n = some x ↔ ∃ source, s.adapter.registry.sources[n]? = some source ∧
      source.reader = x := by
  unfold reader? Registry.contents
  rw [List.getElem?_map, Option.map_map]
  exact Option.map_eq_some_iff

theorem reader?_quiet {s' : Guarded π} (h : s.adapter.registry.Quiet s'.adapter.registry)
    (hx : s.reader? n = some (.file x)) : s'.reader? n = some (.file x) := by
  unfold reader? at hx ⊢
  rw [h.contents, hx]

theorem reader?_stands {s' : Guarded π} (h : s.adapter.registry.Stands s'.adapter.registry)
    (hx : s.reader? n = some (.file x)) : s'.reader? n = some (.file x) := by
  obtain ⟨more, hmore⟩ := h.sources
  unfold reader? Registry.contents at hx ⊢
  have hn : n < s.adapter.registry.sources.length := by
    by_contra hge
    rw [List.getElem?_eq_none (by rw [List.length_map]; omega)] at hx
    cases hx
  rw [← hmore, List.map_append, List.getElem?_append_left (by rwa [List.length_map]), hx]

/-- A failing reading leaves the reader as it is. -/
theorem read_error {files : Files} {y : FileReader} {e : ReadError}
    (h : x.read files = (y, .error e)) : y = x := by
  unfold FileReader.read at h
  split at h
  · exact (Prod.mk.inj h).1.symm
  · unfold FileReader.readContent at h
    split at h
    · exact (Prod.mk.inj h).1.symm
    · split at h
      · split at h
        · exact (Prod.mk.inj h).1.symm
        · cases (Prod.mk.inj h).2
      · cases (Prod.mk.inj h).2

variable [Publisher π]

/-- What a turn reports of a poller. -/
def report (p : Nat) (s : Guarded π) : Turn π → List Report
  | .read k =>
    if k = p ∧ s.copied p = false then (s.adapter.rows? p).toList.map .batch else []
  | .publish k =>
    if k = p then
      match s.adapter.registry.underWay p with
      | some (_, m :: _) => if s.adapter.refuses m then [.refused m] else [.accepted m]
      | _ => []
    else []
  | _ => []

/-- What is reported of messages is what the publisher answered: a turn of the poller that publishes calls
it on the message that is reported, and not at all if none is. -/
structure Answered (s : Guarded π) (t : Turn π) (p : Nat) : Prop where
  accepted : ∀ m, s.report p t = [.accepted m] → ∃ lines,
    Publisher.publish s.adapter.publisher m.1 m.2 = ((s.step t).adapter.publisher, lines, none)
  refused : ∀ m, s.report p t = [.refused m] → ∃ lines e,
    Publisher.publish s.adapter.publisher m.1 m.2 = ((s.step t).adapter.publisher, lines, some e)
  silent : t = .publish p → s.report p t = [] →
    (s.step t).adapter.publisher = s.adapter.publisher

/-- Only a turn that publishes reports a message: the next one of the batch, as it is answered. -/
theorem message_of_report {t : Turn π} {e : Report} (h : s.report p t = [e])
    (hmessage : ∀ rows, e ≠ .batch rows) :
    t = .publish p ∧ ∃ batch m rest, s.adapter.registry.underWay p = some (batch, m :: rest) ∧
      e = if s.adapter.refuses m then .refused m else .accepted m := by
  cases t with
  | publish k =>
    by_cases hk : k = p
    · subst hk
      simp only [report, if_true] at h
      split at h
      · rename_i batch m rest hway
        refine ⟨rfl, batch, m, rest, hway, ?_⟩
        split at h <;> rename_i hrefuses
        · rw [if_pos hrefuses]
          exact (List.singleton_inj.mp h).symm
        · rw [if_neg hrefuses]
          exact (List.singleton_inj.mp h).symm
      · cases h
    · simp [report, hk] at h
  | read k =>
    simp only [report] at h
    split at h
    · obtain ⟨rows, -, hrows⟩ := List.map_eq_singleton_iff.mp h
      exact absurd hrows.symm (hmessage rows)
    · cases h
  | _ => cases h

theorem answered (s : Guarded π) (t : Turn π) (p : Nat) : Answered s t p where
  accepted m h := by
    obtain ⟨rfl, batch, m', rest, hway, he⟩ := message_of_report h (by simp)
    rcases hcall : Publisher.publish s.adapter.publisher m'.1 m'.2 with ⟨publisher, lines, _ | e⟩
    · obtain rfl : m = m' := by simpa [Adapter.refuses, hcall] using he
      exact ⟨lines, (Adapter.publishNext_of_cons hway hcall).1 ▸ hcall⟩
    · simp [Adapter.refuses, hcall] at he
  refused m h := by
    obtain ⟨rfl, batch, m', rest, hway, he⟩ := message_of_report h (by simp)
    rcases hcall : Publisher.publish s.adapter.publisher m'.1 m'.2 with ⟨publisher, lines, _ | e⟩
    · simp [Adapter.refuses, hcall] at he
    · obtain rfl : m = m' := by simpa [Adapter.refuses, hcall] using he
      exact ⟨lines, e, (Adapter.publishNext_of_cons hway hcall).1 ▸ hcall⟩
  silent ht hnone := by
    subst ht
    show (s.adapter.publishNext p).publisher = _
    cases hway : s.adapter.registry.underWay p with
    | none => rw [Adapter.publishNext_of_none hway]
    | some way =>
      obtain ⟨batch, _ | ⟨m, rest⟩⟩ := way
      · exact (Adapter.publishNext_of_nil hway).1
      · -- there is a message left, and it would have been reported
        simp only [report, hway, if_true] at hnone
        split at hnone <;> cases hnone

/-- What one turn can do to a poller and to the reader of its source. -/
inductive Pace (s : Guarded π) (t : Turn π) (p n : Nat) (x : FileReader) : Prop
  | still (hreport : s.report p t = [])
      (hway : (s.step t).adapter.registry.underWay p = s.adapter.registry.underWay p)
      (hreader : (s.step t).reader? n = some (.file x))
  | took (q : Poller) (y : FileReader) (rows : List Row) (kind : String)
      (hreport : s.report p t = [.batch rows])
      (hbefore : s.adapter.registry.underWay p = none)
      (hq : s.adapter.registry.pollers[p]? = some q)
      (hread : x.read s.adapter.surroundings.files = (y, .ok rows))
      (hway : (s.step t).adapter.registry.underWay p =
        some (⟨kind, q.thing, q.channel, rows⟩, fanOut q.thing q.channel rows))
      (hreader : (s.step t).reader? n = some (.file y))
  | ended (batch : Batch) (hreport : s.report p t = [])
      (hbefore : s.adapter.registry.underWay p = some (batch, []))
      (hway : (s.step t).adapter.registry.underWay p = none)
      (hreader : (s.step t).reader? n = some (.file x))
  | accepted (batch : Batch) (m : String × Message) (rest : List (String × Message))
      (hreport : s.report p t = [.accepted m])
      (hbefore : s.adapter.registry.underWay p = some (batch, m :: rest))
      (hway : (s.step t).adapter.registry.underWay p = some (batch, rest))
      (hreader : (s.step t).reader? n = some (.file x))
  | refused (batch : Batch) (m : String × Message) (rest : List (String × Message))
      (hreport : s.report p t = [.refused m])
      (hbefore : s.adapter.registry.underWay p = some (batch, m :: rest))
      (hway : (s.step t).adapter.registry.underWay p = none)
      (hreader : (s.step t).reader? n = some (.file x))

/-- The end of a reading of the file. -/
theorem pace_read (hx : s.reader? n = some (.file x)) {q : Poller}
    (hq : s.adapter.registry.pollers[p]? = some q) (hn : q.source = n)
    (hcopied : s.copied p = false) : Pace s (.read p) p n x := by
  subst hn
  obtain ⟨source, hsource, hfile⟩ := reader?_eq_some_iff.mp hx
  have hreport : s.report p (.read p) = (s.adapter.rows? p).toList.map .batch := by
    simp [report, hcopied]
  have hstep : s.step (.read p) = { s with adapter := s.adapter.finishReading p } := by
    simp [step, hcopied]
  by_cases hphase : q.phase = .reading
  · obtain ⟨hrows, hregistry⟩ := Adapter.finishReading_file hq hphase hsource hfile
    have hbefore : s.adapter.registry.underWay p = none := by
      rw [Registry.underWay_of_some hq, hphase]
      rfl
    have hreader : (s.step (.read p)).reader? q.source =
        some (.file (x.read s.adapter.surroundings.files).1) := by
      obtain ⟨-, hcontents⟩ := Registry.finishReading_keeps hq s.adapter.kind
        (.file (x.read s.adapter.surroundings.files).1) (x.read s.adapter.surroundings.files).2
      have hlt : q.source < s.adapter.registry.contents.length := by
        rw [Registry.length_contents]
        exact (List.getElem?_eq_some_iff.mp hsource).1
      rw [hstep]
      show (((s.adapter.finishReading p).registry.contents)[q.source]?).map _ = _
      rw [hregistry, hcontents, List.getElem?_set_self hlt]
      rfl
    have hway : (s.step (.read p)).adapter.registry.underWay p = (s.adapter.registry.finishReading p
        s.adapter.kind (.file (x.read s.adapter.surroundings.files).1)
        (x.read s.adapter.surroundings.files).2).underWay p := by
      rw [hstep]
      exact congrArg (fun r => Registry.underWay r p) hregistry
    simp only [Registry.finishReading, hq] at hway
    rcases hread : x.read s.adapter.surroundings.files with ⟨y, e | rows⟩
    · -- the reading fails and the poller waits again
      obtain rfl := read_error hread
      rw [hread] at hrows hway hreader
      refine .still (by rw [hreport, hrows]; rfl) ?_ hreader
      rw [hway, hbefore]
      exact Registry.underWay_setPhase hq .waiting
    · rw [hread] at hrows hway hreader
      refine .took q y rows s.adapter.kind.tag (by rw [hreport, hrows]; rfl) hbefore hq hread ?_
        hreader
      rw [hway, ← Batch.messages_eq_fanOut ⟨s.adapter.kind.tag, q.thing, q.channel, rows⟩]
      exact Registry.underWay_setPhase hq _
  · obtain ⟨hrows, hsame⟩ := Adapter.finishReading_idle hq hphase
    refine .still (by rw [hreport, hrows]; rfl) ?_ ?_
    · rw [hstep]
      exact congrArg (fun r => Registry.underWay r p) hsame
    · refine reader?_quiet ?_ hx
      rw [hstep]
      show s.adapter.registry.Quiet (s.adapter.finishReading p).registry
      rw [hsame]
      exact Registry.Quiet.refl _

/-- The end of a reading of another source. -/
theorem pace_read_other (hx : s.reader? n = some (.file x)) {k : Nat} (hk : k ≠ p) {q : Poller}
    (hq : s.adapter.registry.pollers[k]? = some q) (hn : n ≠ q.source) : Pace s (.read k) p n x := by
  have hcontents := (poller_step (s := s) (t := .read k) rfl).2 n
    (fun o ho => by rwa [Option.some.inj (ho.symm.trans hq)])
  refine .still (by simp [report, hk]) ?_ (by unfold reader? at hx ⊢; rw [hcontents, hx])
  cases hcopied : s.copied k with
  | true => simp [step, hcopied]
  | false =>
    simp only [step, hcopied, Bool.false_eq_true, if_false, Adapter.finishReading, hq]
    split
    · exact Registry.underWay_finishReading_ne hk _ _ _
    · rfl

/-- Whoever would replace a snapshot that is being copied waits, and so does a number without poller. -/
theorem pace_read_none (hx : s.reader? n = some (.file x)) {k : Nat}
    (hnone : s.copied k = true ∨ s.adapter.registry.pollers[k]? = none) : Pace s (.read k) p n x := by
  have hstep : s.step (.read k) = s := by
    rcases hnone with hcopied | hq
    · simp [step, hcopied]
    · simp [step, Adapter.finishReading, hq]
  refine .still ?_ (by rw [hstep]) (by rw [hstep, hx])
  simp only [report]
  split
  · rename_i hk
    obtain ⟨rfl, hcopied⟩ := hk
    have hq := hnone.resolve_left (by simp [hcopied])
    simp [Adapter.rows?, hq]
  · rfl

/-- Publishing the next message, or ending the batch. -/
theorem pace_publish (hx : s.reader? n = some (.file x)) : Pace s (.publish p) p n x := by
  have hreader : (s.step (.publish p)).reader? n = some (.file x) :=
    reader?_quiet (s.adapter.quiet_publishNext p) hx
  have hset : ∀ {phase : Phase} {way}, s.adapter.registry.underWay p = some way →
      (s.adapter.publishNext p).registry = s.adapter.registry.setPhase p phase →
      (s.step (.publish p)).adapter.registry.underWay p = phase.underWay := by
    intro phase way hway hregistry
    obtain ⟨batch, rest⟩ := way
    obtain ⟨q, hq, -⟩ := Registry.phase_of_underWay hway
    show (s.adapter.publishNext p).registry.underWay p = _
    rw [hregistry, Registry.underWay_setPhase hq]
  cases hway : s.adapter.registry.underWay p with
  | none =>
    refine .still (by simp [report, hway]) ?_ hreader
    show (s.adapter.publishNext p).registry.underWay p = _
    rw [Adapter.publishNext_of_none hway]
  | some way =>
    obtain ⟨batch, _ | ⟨m, rest⟩⟩ := way
    · exact .ended batch (by simp [report, hway]) hway
        (hset hway (Adapter.publishNext_of_nil hway).2) hreader
    · cases hm : s.adapter.refuses m with
      | false =>
        exact .accepted batch m rest (by simp [report, hway, hm]) hway
          (hset hway (Adapter.publishNext_of_accepted hway hm)) hreader
      | true =>
        exact .refused batch m rest (by simp [report, hway, hm]) hway
          (hset hway (Adapter.publishNext_of_refused hway hm)) hreader

/-- If a poller is the only one of its source, every turn is one of `Pace`. -/
theorem pace (hx : s.reader? n = some (.file x))
    (honly : ∀ (k : Nat) (q : Poller), s.adapter.registry.pollers[k]? = some q →
      (q.source = n ↔ k = p)) (t : Turn π) : Pace s t p n x := by
  cases t with
  | ask request => exact .still rfl rfl hx
  | askIds => exact .still rfl rfl hx
  | outside d surroundings publisher => exact .still rfl rfl hx
  | advance i order =>
    exact .still rfl (Registry.underWay_stands (stands_advance s i order) (change_advance s i order))
      (reader?_stands (stands_advance s i order) hx)
  | tick k =>
    exact .still rfl (Registry.underWay_takeTick _ k s.adapter.now p)
      (reader?_quiet (s.adapter.registry.quiet_takeTick k s.adapter.now) hx)
  | hold k =>
    refine .still rfl ?_ (reader?_quiet (s.adapter.quiet_beginReading k) hx)
    have hhold := s.adapter.registry.underWay_holdSource k p
    show (s.adapter.beginReading k).registry.underWay p = _
    simp only [Adapter.beginReading]
    split
    · split
      · exact hhold
      · rfl
    · rfl
  | exit k => exact .still rfl (Registry.underWay_exit _ k p) (reader?_quiet ⟨rfl, rfl⟩ hx)
  | publish k =>
    by_cases hk : k = p
    · subst hk
      exact pace_publish hx
    · exact .still (by simp [report, hk]) (Adapter.publishNext_ne hk)
        (reader?_quiet (s.adapter.quiet_publishNext k) hx)
  | read k =>
    cases hcopied : s.copied k with
    | true => exact pace_read_none hx (.inl hcopied)
    | false =>
      cases hq : s.adapter.registry.pollers[k]? with
      | none => exact pace_read_none hx (.inr hq)
      | some q =>
        by_cases hk : k = p
        · subst hk
          exact pace_read hx hq ((honly k q hq).mpr rfl) hcopied
        · exact pace_read_other hx hk hq fun h => hk ((honly k q hq).mp h.symm)

end Guarded

end TableFeed
