import TableFeed.Proofs.Registry.OnePoller
import TableFeed.Proofs.Registry.Publications
import TableFeed.Publishing.LogPublisher

/-!
# What a feed delivers

From the moment a feed of a file is put in, until its poller is told to stop, what the publisher accepts
are the messages of the rows in their order. A refused message costs the rest of its batch and nothing
else, and the poller goes on after refusals and failing readings.

* **`due_takes`** — a tick that is due leads to a batch of all rows that are left.
* **`GoesOn`** — where a poller is after a failure.
* **`published_once`** — the headline.
-/

namespace TableFeed

variable {π : Type}

namespace Guarded

variable {s : Guarded π} {id : String} {f : Feed} {r : FileReader} {p : Nat} {q : Poller}

/-- The pollers of a source that were not told to stop are one poller. -/
theorem only_of_going {n : Nat} {channel : String}
    (hserves : s.adapter.registry.Serves n id channel) (hwired : s.adapter.registry.Wired)
    (hgoing : ∀ (k : Nat) (o : Poller), s.adapter.registry.pollers[k]? = some o → o.source = n →
      o.ticker.stopped = false)
    (hq : s.adapter.registry.pollers[p]? = some q) (hsource : q.source = n)
    (k : Nat) (o : Poller) (ho : s.adapter.registry.pollers[k]? = some o) : o.source = n ↔ k = p := by
  constructor
  · intro hshared
    have hthing := (hserves.pollers k o ho hshared).1.trans (hserves.pollers p q hq hsource).1.symm
    exact hwired.unique ho hq (hgoing k o ho hshared) (hgoing p q hq hsource) hthing
  · rintro rfl
    rw [Option.some.inj (ho.symm.trans hq), hsource]

variable [Publisher π]

/-! ## A poller goes on -/

/-- A poller that was refused a message waits for its next tick. -/
theorem refused_waits (hq : s.adapter.registry.pollers[p]? = some q) {batch : Batch}
    {m : String × Message} {rest : List (String × Message)}
    (hphase : q.phase = .publishing batch (m :: rest)) (hrefuses : s.adapter.refuses m = true) :
    (s.step (.publish p)).adapter.registry.pollers[p]? = some { q with phase := .waiting } := by
  have hway : s.adapter.registry.underWay p = some (batch, m :: rest) := by
    rw [Registry.underWay_of_some hq, hphase]
    rfl
  have hlt : p < s.adapter.registry.pollers.length := (List.getElem?_eq_some_iff.mp hq).1
  show (s.adapter.publishNext p).registry.pollers[p]? = _
  rw [Adapter.publishNext_of_refused hway hrefuses, Registry.setPhase_pollers hq,
    List.getElem?_set_self hlt]

/-- A poller whose reading failed waits for its next tick. -/
theorem failed_waits (hq : s.adapter.registry.pollers[p]? = some q) (hphase : q.phase = .reading)
    {source : Source} (hsource : s.adapter.registry.sources[q.source]? = some source)
    (hrows : s.adapter.rows? p = none) (hcopied : s.copied p = false) :
    (s.step (.read p)).adapter.registry.pollers[p]? = some { q with phase := .waiting } := by
  simp only [Adapter.rows?, hq, hphase, hsource] at hrows
  simp only [step, hcopied, if_neg, Bool.false_eq_true, not_false_eq_true, Adapter.finishReading,
    hq, hphase, hsource]
  simp only [Registry.finishReading, hq]
  cases hresult : (source.reader.read s.adapter.surroundings).2.2 with
  | ok rows =>
    rw [hresult] at hrows
    cases hrows
  | error e =>
    show (s.adapter.registry.pollers.modify p _)[p]? = _
    rw [List.getElem?_modify_eq, hq]
    rfl

/-- A poller that waits takes a tick that is due. -/
theorem step_tick (hq : s.adapter.registry.pollers[p]? = some q) (hphase : q.phase = .waiting)
    (hready : q.ticker.ready s.adapter.now = true) :
    s.step (.tick p) = { s with adapter := { s.adapter with registry := { s.adapter.registry with
      pollers := s.adapter.registry.pollers.set p
        { q with ticker := q.ticker.take s.adapter.now, phase := .ticked } } } } := by
  simp only [step, Adapter.takeTick, Registry.takeTick, hq, hphase, hready, if_pos]

/-- A poller that has taken a tick gets hold of its source if it is free. -/
theorem registry_hold (hq : s.adapter.registry.pollers[p]? = some q) (hphase : q.phase = .ticked)
    {source : Source} (hsource : s.adapter.registry.sources[q.source]? = some source)
    (hfree : source.holder = none) :
    (s.step (.hold p)).adapter.registry = { s.adapter.registry with
      pollers := s.adapter.registry.pollers.set p { q with phase := .reading }
      sources := s.adapter.registry.sources.set q.source { source with holder := some p } } := by
  have hlt : p < s.adapter.registry.pollers.length := (List.getElem?_eq_some_iff.mp hq).1
  have hslt : q.source < s.adapter.registry.sources.length :=
    (List.getElem?_eq_some_iff.mp hsource).1
  have hhold : s.adapter.registry.holdSource p = { s.adapter.registry with
      pollers := s.adapter.registry.pollers.set p { q with phase := .reading }
      sources := s.adapter.registry.sources.set q.source { source with holder := some p } } := by
    simp only [Registry.holdSource, hq, hphase, hsource, hfree, Option.isSome_none,
      Bool.false_eq_true, if_false]
    rw [Registry.setPhase_pollers hq]
    rfl
  simp only [step, Adapter.beginReading, hhold, List.getElem?_set_self hlt,
    List.getElem?_set_self hslt]
  rfl

/-- A poller that waits and finds its tick due reads its source two turns later, if that is free. -/
theorem due_reads (hq : s.adapter.registry.pollers[p]? = some q) (hphase : q.phase = .waiting)
    (hready : q.ticker.ready s.adapter.now = true) {source : Source}
    (hsource : s.adapter.registry.sources[q.source]? = some source) (hfree : source.holder = none) :
    let held := run [.tick p, .hold p] s
    held.adapter.registry.pollers[p]? =
        some { q with ticker := q.ticker.take s.adapter.now, phase := .reading } ∧
      held.adapter.registry.sources[q.source]? = some { source with holder := some p } ∧
      held.adapter.surroundings = s.adapter.surroundings ∧ held.visits = s.visits := by
  have hlt : p < s.adapter.registry.pollers.length := (List.getElem?_eq_some_iff.mp hq).1
  have htick := step_tick hq hphase hready
  have hticked : (s.step (.tick p)).adapter.registry.pollers[p]? =
      some { q with ticker := q.ticker.take s.adapter.now, phase := .ticked } := by
    rw [htick]
    exact List.getElem?_set_self hlt
  have hsource₁ : (s.step (.tick p)).adapter.registry.sources[q.source]? = some source := by
    rw [htick]
    exact hsource
  have hhold := registry_hold hticked rfl hsource₁ hfree
  have hlt₁ := (List.getElem?_eq_some_iff.mp hticked).1
  show ((s.step (.tick p)).step (.hold p)).adapter.registry.pollers[p]? = _ ∧
    ((s.step (.tick p)).step (.hold p)).adapter.registry.sources[q.source]? = _ ∧ _
  rw [hhold]
  refine ⟨List.getElem?_set_self hlt₁,
    List.getElem?_set_self (List.getElem?_eq_some_iff.mp hsource₁).1, ?_, ?_⟩
  · show ((s.step (.tick p)).adapter.beginReading p).surroundings = _
    rw [Adapter.beginReading_surroundings, htick]
  · show (s.step (.tick p)).visits = _
    rw [htick]

/-- A poller that waits and finds its tick due, nobody else having its source, takes all rows that are
left. -/
theorem due_takes {n k : Nat} (hheld : s.adapter.registry.Held)
    (hx : s.reader? n = some (.file { r with position := k }))
    (honly : ∀ (j : Nat) (o : Poller), s.adapter.registry.pollers[j]? = some o →
      (o.source = n ↔ j = p))
    (hq : s.adapter.registry.pollers[p]? = some q) (hphase : q.phase = .waiting)
    (hready : q.ticker.ready s.adapter.now = true) (hcopied : s.copied p = false)
    {content : List UInt8} (hfile : s.adapter.surroundings.files.read r.fileName = .ok content)
    (hk : k ≤ (r.dataRows content).length) (hdata : r.dataRows content ≠ []) :
    reports p [.tick p, .hold p, .read p] s = [.batch ((r.dataRows content).drop k)] ∧
      ∃ batch, (run [.tick p, .hold p, .read p] s).adapter.registry.underWay p =
        some (batch, fanOut q.thing q.channel ((r.dataRows content).drop k)) := by
  obtain rfl : q.source = n := (honly p q hq).mpr rfl
  obtain ⟨source, hsource, hreader⟩ := reader?_eq_some_iff.mp hx
  -- whoever held the source would read it, and nobody but this poller does
  have hfree : source.holder = none := by
    cases hholder : source.holder with
    | none => rfl
    | some j =>
      obtain ⟨o, ho, hreads, hshared⟩ := hheld.holder _ source j hsource hholder
      obtain rfl : j = p := (honly j o ho).mp hshared
      rw [Option.some.inj (hq.symm.trans ho), hreads] at hphase
      cases hphase
  obtain ⟨hholds, hsource₂, hsurroundings, hvisits⟩ := due_reads hq hphase hready hsource hfree
  generalize hheld₂ : run [.tick p, .hold p] s = s₂ at hholds hsource₂ hsurroundings hvisits
  have hcopied₂ : s₂.copied p = false := by
    simp only [copied, hholds, hq, free, hvisits] at hcopied ⊢
    exact hcopied
  have hread : FileReader.read { r with position := k } s.adapter.surroundings.files =
      ({ r with position := (r.dataRows content).length }, .ok ((r.dataRows content).drop k)) := by
    simp only [FileReader.read, hfile]
    exact (FileReader.readContent_data hk).resolve_left fun hnone => hdata hnone.1
  have hrows : s₂.adapter.rows? p = some ((r.dataRows content).drop k) := by
    simp only [Adapter.rows?, hholds, hsource₂, hsurroundings, hreader, Reader.read, hread]
    rfl
  have hreport : s₂.report p (.read p) = [.batch ((r.dataRows content).drop k)] := by
    simp [report, hcopied₂, hrows]
  have hx₂ : s₂.reader? q.source = some (.file { r with position := k }) :=
    reader?_eq_some_iff.mpr ⟨_, hsource₂, hreader⟩
  have hrun : run [.tick p, .hold p, .read p] s = s₂.step (.read p) := by
    rw [← hheld₂]
    rfl
  constructor
  · rw [← hreport, ← hheld₂]
    exact List.append_nil _
  · -- the reading ends with rows, so that it is one that took them
    rw [hrun]
    cases pace_read hx₂ hholds rfl hcopied₂ with
    | took q' y rows kind htook _ hq' _ hway _ =>
      obtain rfl : rows = (r.dataRows content).drop k := by
        rw [hreport] at htook
        simpa using htook.symm
      rw [Option.some.inj (hq'.symm.trans hholds)] at hway
      exact ⟨_, hway⟩
    | still hnone => simp [hreport] at hnone
    | ended _ hnone => simp [hreport] at hnone
    | accepted _ _ _ hother => simp [hreport] at hother
    | refused _ _ _ hother => simp [hreport] at hother

/-- Failures do not keep a poller from going on. -/
structure GoesOn (s : Guarded π) (p : Nat) (q : Poller) (r : FileReader) (k : Nat) : Prop where
  alive : q.phase ≠ .exited
  failed : q.phase = .reading → s.copied p = false → s.adapter.rows? p = none →
    (s.step (.read p)).adapter.registry.pollers[p]? = some { q with phase := .waiting }
  refused : ∀ batch m rest, q.phase = .publishing batch (m :: rest) → s.adapter.refuses m = true →
    (s.step (.publish p)).adapter.registry.pollers[p]? = some { q with phase := .waiting }
  /-- When its tick is due and the file can be read, it takes the rows that it has not taken yet. -/
  takes : q.phase = .waiting → q.ticker.ready s.adapter.now = true → s.copied p = false →
    ∀ content, s.adapter.surroundings.files.read r.fileName = .ok content →
      r.dataRows content ≠ [] →
      reports p [.tick p, .hold p, .read p] s = [.batch ((r.dataRows content).drop k)] ∧
        ∃ batch, (run [.tick p, .hold p, .read p] s).adapter.registry.underWay p =
          some (batch, fanOut q.thing q.channel ((r.dataRows content).drop k))

theorem goesOn {n k : Nat} {content : List UInt8} (hwired : s.adapter.registry.Wired)
    (hheld : s.adapter.registry.Held) (hx : s.reader? n = some (.file { r with position := k }))
    (honly : ∀ (j : Nat) (o : Poller), s.adapter.registry.pollers[j]? = some o →
      (o.source = n ↔ j = p))
    (hq : s.adapter.registry.pollers[p]? = some q) (hrun : q.ticker.stopped = false)
    (hk : k ≤ (r.dataRows content).length)
    (hfinds : ∀ found, s.adapter.surroundings.files.read r.fileName = .ok found → found = content) :
    GoesOn s p q r k where
  alive := (hwired.bound_to hq hrun).1
  failed := by
    intro hphase hcopied hrows
    obtain ⟨source, hsource, -⟩ := hheld.reading p q hq hphase
    exact failed_waits hq hphase hsource hrows hcopied
  refused batch m rest hphase hrefuses := refused_waits hq hphase hrefuses
  takes := by
    intro hphase hready hcopied found hfound hdata
    obtain rfl := hfinds found hfound
    exact due_takes hheld hx honly hq hphase hready hcopied hfound hk hdata

/-- Some run leads here. -/
def Reached (s : Guarded π) : Prop :=
  ∃ (a : Adapter π) (turns : List (Turn π)), s = run turns (begin a)

/-- **Every row is published once at most.** Of a file that grows by complete records, what the publisher
has accepted from a poller stands in the order of the rows and cell by cell, nothing twice; only what stood
behind a refused message of one batch is missing; and neither failing readings nor refusals keep the poller
from going on. -/
theorem published_once (hreached : Reached s) (hfresh : Fresh s id f r) (hfirst : r.position = 0)
    (turns : List (Turn π)) {content : Nat → List UInt8} (hgrows : Grows r.fileName content turns s)
    (hq : (run turns s).adapter.registry.pollers[p]? = some q) (hsource : q.source = f.source)
    (hgoing : ∀ (k : Nat) (o : Poller), (run turns s).adapter.registry.pollers[k]? = some o →
      o.source = f.source → o.ticker.stopped = false) :
    (∀ front t, front ++ [t] <+: turns → Answered (run front s) t p) ∧ ∃ pubs k,
      Publishes (run turns s) p f.source r id f.channel (content turns.length) (reports p turns s)
        pubs k ∧
      ((reports p turns s).filterMap Report.accepted?).Sublist
        (fanOut id f.channel ((r.dataRows (content turns.length)).take k)) ∧
      ((∀ m, Report.refused m ∉ reports p turns s) →
        (reports p turns s).filterMap Report.accepted? ++ (run turns s).adapter.registry.left p =
          fanOut id f.channel ((r.dataRows (content turns.length)).take k)) ∧
      (∀ (j : Nat) (o : Poller), (run turns s).adapter.registry.pollers[j]? = some o →
        o.source = f.source → j = p) ∧
      GoesOn (run turns s) p q r k := by
  obtain ⟨a, before, rfl⟩ := hreached
  have hserves := hfresh.serves (wired_reached a before)
  have hwired : (run turns (run before (begin a))).adapter.registry.Wired := by
    rw [← run_append]
    exact wired_reached a (before ++ turns)
  have hheld : (run turns (run before (begin a))).adapter.registry.Held := by
    rw [← run_append]
    exact held_reached a (before ++ turns)
  have honly := only_of_going
    (run_of_change (P := fun r => r.Serves f.source id f.channel) (fun h hchange => h.change hchange)
      turns hserves) hwired hgoing hq hsource
  -- who reads the source at the end would have read it at the beginning
  have hstart : ∀ o : Poller, (run before (begin a)).adapter.registry.pollers[p]? = some o →
      o.source = f.source := by
    intro o ho
    obtain ⟨o', ho', hfollows⟩ := follows_run turns (run before (begin a)) p o ho
    rw [← hfollows.source]
    exact (honly p o' ho').mpr rfl
  obtain ⟨pubs, k, hpubs⟩ :=
    publishes_run turns hserves (hfresh.publishes hfirst p hstart (content 0)) hgrows honly
  refine ⟨fun front t _ => answered (run front _) t p, pubs, k, hpubs, hpubs.sublist, hpubs.gapless,
    ?_, ?_⟩
  · exact fun j o ho hshared => (honly j o ho).mp hshared
  · exact goesOn hwired hheld hpubs.reader honly hq (hgoing p q hq hsource) hpubs.within hgrows.last

/-- An adapter beside a file with two rows, whose publisher refuses the second message. -/
def twoRows : Adapter LogPublisher where
  surroundings := { files := ⟨[(["a.csv".toList], .file (Utf8.bytes "h\n1\n2\n"))]⟩ }
  publisher := LogPublisher.failingAfter 1

/-- A feed of the file is put in. -/
def putIn : List (Turn LogPublisher) :=
  [.ask (.create "t" "c" "\x7b\"filename\":\"a.csv\",\"interval\":1.0\x7d"), .advance 0 0,
    .advance 0 0, .advance 0 0]

/-- Its reader, with an interval of one second. -/
def putInReader : FileReader :=
  { fileName := "a.csv", interval := .finite false 4503599627370496 (-52) }

/-- The surroundings after one row more was written. -/
def threeRows : Surroundings :=
  { files := ⟨[(["a.csv".toList], .file (Utf8.bytes "h\n1\n2\n3\n"))]⟩ }

/-- A batch with a refusal, a reading that fails, and a batch after both. -/
def refusedAndFailed : List (Turn LogPublisher) :=
  [.ask (.schedule "t" false), .advance 0 0, .advance 0 0,
    .outside (.ofSeconds 1) twoRows.surroundings twoRows.publisher,
    .tick 0, .hold 0, .read 0, .publish 0, .publish 0,
    .outside (.ofSeconds 1) {} LogPublisher.recording, .tick 0, .hold 0, .read 0,
    .outside (.ofSeconds 1) threeRows LogPublisher.recording,
    .tick 0, .hold 0, .read 0, .publish 0, .publish 0]

/-- What the file holds. -/
def heldThen (turn : Nat) : List UInt8 :=
  if turn ≤ 13 then Utf8.bytes "h\n1\n2\n" else Utf8.bytes "h\n1\n2\n3\n"

theorem fresh_putIn : Fresh (run putIn (begin twoRows)) "t"
    { channel := "c", source := 0, interval := .ofSeconds 1 } putInReader := by
  refine ⟨by decide +kernel, by decide +kernel, ?_⟩
  have hnone : (run putIn (begin twoRows)).adapter.registry.pollers = [] := by decide +kernel
  intro p q hq
  rw [hnone] at hq
  cases hq

theorem grows_heldThen : Grows "a.csv" heldThen refusedAndFailed (run putIn (begin twoRows)) where
  complete := by
    intro m
    unfold heldThen
    split <;> decide +kernel
  appends := by
    intro m
    unfold heldThen
    by_cases hm : m ≤ 12
    · rw [if_pos (by omega), if_pos (by omega)]
    · rw [if_neg (by omega : ¬ m + 1 ≤ 13)]
      split <;> decide +kernel
  finds := by
    have hfinds : ∀ m ≤ refusedAndFailed.length,
        (((run (refusedAndFailed.take m) (run putIn (begin twoRows))).adapter.surroundings.files.read
          "a.csv").toOption.all fun found => found = heldThen m) = true := by decide +kernel
    intro m hm found hfound
    have h := hfinds m hm
    rw [hfound] at h
    exact of_decide_eq_true h

/-- The messages of the three rows. -/
def threeMessages : List (String × Message) :=
  [("channels.c.h", ⟨"t", "dbreader", "c", "h", "[\x7b\"n\":\"1\",\"v\":1\x7d]"⟩),
    ("channels.c.h", ⟨"t", "dbreader", "c", "h", "[\x7b\"n\":\"2\",\"v\":2\x7d]"⟩),
    ("channels.c.h", ⟨"t", "dbreader", "c", "h", "[\x7b\"n\":\"3\",\"v\":3\x7d]"⟩)]

/-- Of three messages the second is refused, and the others are accepted. -/
theorem published_once_refused :
    fanOut "t" "c" (putInReader.dataRows (heldThen 19)) = threeMessages ∧
      (∃ pubs, Publishes (run refusedAndFailed (run putIn (begin twoRows))) 0 0 putInReader "t" "c"
        (heldThen 19) (reports 0 refusedAndFailed (run putIn (begin twoRows))) pubs 3) ∧
      (reports 0 refusedAndFailed (run putIn (begin twoRows))).filterMap Report.accepted? =
        threeMessages.eraseIdx 1 ∧
      (run refusedAndFailed (run putIn (begin twoRows))).adapter.publisher.published =
        threeMessages.drop 2 := by
  have hpollers : (run refusedAndFailed (run putIn (begin twoRows))).adapter.registry.pollers.map
      (fun q => (q.source, q.ticker.stopped)) = [(0, false)] := by decide +kernel
  obtain ⟨q, hone, hq⟩ := List.map_eq_singleton_iff.mp hpollers
  obtain ⟨hsource, hrunning⟩ := Prod.mk.inj hq
  have hgoing : ∀ (k : Nat) (o : Poller),
      (run refusedAndFailed (run putIn (begin twoRows))).adapter.registry.pollers[k]? = some o →
        o.source = 0 → o.ticker.stopped = false := by
    intro k o ho _
    rw [hone] at ho
    rw [List.mem_singleton.mp (List.mem_of_getElem? ho)]
    exact hrunning
  obtain ⟨-, pubs, k, hpubs, -⟩ := published_once (p := 0) ⟨twoRows, putIn, rfl⟩ fresh_putIn rfl
    refusedAndFailed grows_heldThen (by rw [hone]; rfl) hsource hgoing
  -- the reader stands behind three rows
  have hreader : (run refusedAndFailed (run putIn (begin twoRows))).reader? 0 =
      some (.file { putInReader with position := 3 }) := by decide +kernel
  obtain rfl : k = 3 := by
    have hposition := hpubs.reader.symm.trans hreader
    simpa using hposition
  exact ⟨by decide +kernel, ⟨pubs, hpubs⟩, by decide +kernel, by decide +kernel⟩

end Guarded

end TableFeed
