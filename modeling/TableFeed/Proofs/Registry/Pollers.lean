import TableFeed.Proofs.Registry.Feeds

/-!
# What each operation does to feeds and pollers

For each operation of the registry: which feed a lookup finds afterwards (`feed?_…`), and which
poller stands at each number (`pollers_…`). Everything later is derived from these; no other module
opens an operation.

The operations that replace, remove or start the feed of a thing do one thing in common to the
pollers there were: the one that ran for the thing is told to stop and no other is touched. That is
`Poller.haltAt`.
-/

namespace TableFeed

namespace Poller

@[simp] theorem stop_stopped (q : Poller) : q.stop.ticker.stopped = true := rfl

/-- The poller with number `p`, told to stop if that is the given number. -/
def haltAt (number : Option Nat) (p : Nat) (q : Poller) : Poller :=
  if number = some p then q.stop else q

@[simp] theorem haltAt_none (p : Nat) (q : Poller) : haltAt none p q = q :=
  if_neg (by simp)

@[simp] theorem haltAt_self (p : Nat) (q : Poller) : haltAt (some p) p q = q.stop :=
  if_pos rfl

theorem haltAt_ne {n : Option Nat} {p : Nat} (h : n ≠ some p) (q : Poller) : haltAt n p q = q :=
  if_neg h

/-- A poller that runs afterwards was not the one told to stop, and is as it was. -/
theorem haltAt_running {n : Option Nat} {p : Nat} {q : Poller}
    (h : (haltAt n p q).ticker.stopped = false) : n ≠ some p ∧ haltAt n p q = q := by
  by_cases hn : n = some p
  · rw [hn, haltAt_self, stop_stopped] at h
    exact absurd h (by decide)
  · exact ⟨hn, haltAt_ne hn q⟩

end Poller

namespace Registry

/-- The poller that runs for a thing is the one its feed names. -/
theorem poller?_of_feed {r : Registry} {id : String} {f : Feed} (h : r.feed? id = some f) :
    r.poller? id = f.poller := by
  rw [poller?, h, Option.bind_some]

/-! ## Telling a poller to stop -/

@[simp] theorem halt_feeds (r : Registry) (n : Option Nat) : (r.halt n).feeds = r.feeds := by
  cases n <;> rfl

@[simp] theorem halt_sources (r : Registry) (n : Option Nat) : (r.halt n).sources = r.sources := by
  cases n <;> rfl

@[simp] theorem halt_length (r : Registry) (n : Option Nat) :
    (r.halt n).pollers.length = r.pollers.length := by
  cases n with
  | none => rfl
  | some n => exact List.length_modify ..

theorem pollers_halt (r : Registry) (n : Option Nat) (p : Nat) :
    (r.halt n).pollers[p]? = (r.pollers[p]?).map (Poller.haltAt n p) := by
  cases n with
  | none =>
    show r.pollers[p]? = _
    cases r.pollers[p]? with
    | none => rfl
    | some q => rw [Option.map_some, Poller.haltAt_none]
  | some n =>
    show (r.pollers.modify n Poller.stop)[p]? = _
    rw [List.getElem?_modify]
    by_cases h : n = p
    · subst h
      cases r.pollers[n]? with
      | none => rfl
      | some q => simp
    · have hne : (some n : Option Nat) ≠ some p := fun heq => h (Option.some.inj heq)
      cases r.pollers[p]? with
      | none => rfl
      | some q => simp [h, Poller.haltAt_ne hne]

/-! ## Installing -/

theorem feed?_install (r : Registry) (id channel : String) (reader : Reader) (i : String) :
    (r.install id channel reader).feed? i =
      if i = id then some (r.newFeed channel reader) else r.feed? i := by
  show (putFeed id _ (r.halt _).feeds).lookup i = _
  rw [lookup_putFeed, halt_feeds]
  rfl

theorem sources_install (r : Registry) (id channel : String) (reader : Reader) :
    (r.install id channel reader).sources =
      r.sources ++ [{ reader, snapshot := reader.metadata }] := by
  show (r.halt _).sources ++ _ = _
  rw [halt_sources]

theorem pollers_install (r : Registry) (id channel : String) (reader : Reader) (p : Nat) :
    (r.install id channel reader).pollers[p]? =
      (r.pollers[p]?).map (Poller.haltAt (r.poller? id) p) :=
  pollers_halt r (r.poller? id) p

theorem ordered_install {r : Registry} (h : Ordered r.feeds) (id channel : String)
    (reader : Reader) : Ordered (r.install id channel reader).feeds := by
  show Ordered (putFeed id _ (r.halt _).feeds)
  rw [halt_feeds]
  exact ordered_putFeed id _ h

/-! ## Removing -/

/-- The registry without a thing. -/
theorem remove?_eq_some_iff {r r' : Registry} {id : String} :
    r.remove? id = some r' ↔ ∃ f, r.feed? id = some f ∧
      r' = { r.halt f.poller with feeds := r.feeds.filter (·.1 ≠ id) } := by
  unfold remove?
  rw [Option.map_eq_some_iff]
  constructor
  · rintro ⟨f, hf, rfl⟩
    exact ⟨f, hf, by simp only [halt_feeds]⟩
  · rintro ⟨f, hf, rfl⟩
    exact ⟨f, hf, by simp only [halt_feeds]⟩

theorem feed?_remove {r r' : Registry} {id : String} (h : r.remove? id = some r') (i : String) :
    r'.feed? i = if i = id then none else r.feed? i := by
  obtain ⟨f, _, rfl⟩ := remove?_eq_some_iff.mp h
  exact lookup_removed id i r.feeds

theorem sources_remove {r r' : Registry} {id : String} (h : r.remove? id = some r') :
    r'.sources = r.sources := by
  obtain ⟨f, _, rfl⟩ := remove?_eq_some_iff.mp h
  exact halt_sources r f.poller

theorem pollers_remove {r r' : Registry} {id : String} (h : r.remove? id = some r') (p : Nat) :
    r'.pollers[p]? = (r.pollers[p]?).map (Poller.haltAt (r.poller? id) p) := by
  obtain ⟨f, hf, rfl⟩ := remove?_eq_some_iff.mp h
  rw [poller?_of_feed hf]
  exact pollers_halt r f.poller p

theorem ordered_remove {r r' : Registry} {id : String} (h : r.remove? id = some r')
    (hord : Ordered r.feeds) : Ordered r'.feeds := by
  obtain ⟨f, _, rfl⟩ := remove?_eq_some_iff.mp h
  exact ordered_filter _ hord

/-! ## Starting

Starting ends in one of three ways: there is no such thing, the first tick lies beyond the clock and
the thing is left without a poller, or a new poller stands behind all others. -/

inductive Started (r : Registry) (id : String) (traced : Bool) (now : Instant) : Registry → Prop
  | unknown (hnone : r.feed? id = none) : Started r id traced now r
  | beyond (f : Feed) (hf : r.feed? id = some f) :
      Started r id traced now
        { r.halt f.poller with feeds := putFeed id f.idle r.feeds }
  | fresh (f : Feed) (ticker : Ticker) (hf : r.feed? id = some f)
      (hticker : Ticker.start? f.interval now = some ticker) :
      Started r id traced now
        { r.halt f.poller with
          pollers := (r.halt f.poller).pollers ++
            [{ thing := id, channel := f.channel, source := f.source, traced, ticker }]
          feeds := putFeed id { f with poller := some r.pollers.length } r.feeds }

theorem started (r : Registry) (id : String) (traced : Bool) (now : Instant) :
    Started r id traced now (r.start id traced now).1 := by
  unfold start
  cases hf : r.feed? id with
  | none => exact .unknown hf
  | some f =>
    cases ht : Ticker.start? f.interval now with
    | none =>
      have h : Started r id traced now _ := .beyond f hf
      simpa [ht] using h
    | some ticker =>
      have h : Started r id traced now _ := .fresh f ticker hf ht
      simpa [ht] using h

/-! ## Stopping all

The pollers are told to stop one feed after the other; in the end every number that a feed named has
been told. -/

/-- Telling the pollers of some feeds to stop. -/
def haltFeeds (l : List (String × Feed)) (r : Registry) : Registry :=
  l.foldl (fun r e => r.halt e.2.poller) r

@[simp] theorem haltFeeds_feeds (l : List (String × Feed)) (r : Registry) :
    (haltFeeds l r).feeds = r.feeds := by
  induction l generalizing r with
  | nil => rfl
  | cons e rest ih => exact (ih _).trans (halt_feeds r e.2.poller)

@[simp] theorem haltFeeds_sources (l : List (String × Feed)) (r : Registry) :
    (haltFeeds l r).sources = r.sources := by
  induction l generalizing r with
  | nil => rfl
  | cons e rest ih => exact (ih _).trans (halt_sources r e.2.poller)

theorem haltFeeds_length (l : List (String × Feed)) (r : Registry) :
    (haltFeeds l r).pollers.length = r.pollers.length := by
  induction l generalizing r with
  | nil => rfl
  | cons e rest ih => exact (ih _).trans (halt_length r e.2.poller)

/-- A poller stands where it stood, told to stop if one of the feeds names it. -/
theorem pollers_haltFeeds (l : List (String × Feed)) (r : Registry) (p : Nat) :
    (haltFeeds l r).pollers[p]? = (r.pollers[p]?).map fun q =>
      if ∃ e ∈ l, e.2.poller = some p then q.stop else q := by
  induction l generalizing r with
  | nil =>
    cases h : r.pollers[p]? with
    | none => simpa [haltFeeds] using h
    | some q => simpa [haltFeeds] using h
  | cons e rest ih =>
    show (haltFeeds rest (r.halt e.2.poller)).pollers[p]? = _
    rw [ih, pollers_halt, Option.map_map]
    congr 1
    funext q
    show (if _ then (Poller.haltAt _ p q).stop else Poller.haltAt _ p q) = _
    by_cases he : e.2.poller = some p
    · -- told to stop here; being told again by a later feed changes nothing
      have hsome : ∃ e' ∈ e :: rest, e'.2.poller = some p := ⟨e, List.mem_cons_self, he⟩
      rw [if_pos hsome, he, Poller.haltAt_self]
      split <;> rfl
    · rw [Poller.haltAt_ne he]
      have hiff : (∃ e' ∈ e :: rest, e'.2.poller = some p) ↔ ∃ e' ∈ rest, e'.2.poller = some p := by
        simp [he]
      simp only [hiff]

theorem feed?_stopAll (r : Registry) (i : String) :
    r.stopAll.feed? i = (r.feed? i).map Feed.idle := by
  show List.lookup i (List.map _ (haltFeeds r.feeds r).feeds) = _
  rw [haltFeeds_feeds]
  exact lookup_mapped Feed.idle i r.feeds

theorem sources_stopAll (r : Registry) : r.stopAll.sources = r.sources :=
  haltFeeds_sources r.feeds r

theorem pollers_stopAll (r : Registry) (p : Nat) :
    r.stopAll.pollers[p]? = (r.pollers[p]?).map fun q =>
      if ∃ e ∈ r.feeds, e.2.poller = some p then q.stop else q :=
  pollers_haltFeeds r.feeds r p

theorem ordered_stopAll {r : Registry} (h : Ordered r.feeds) : Ordered r.stopAll.feeds := by
  show Ordered (List.map _ (haltFeeds r.feeds r).feeds)
  rw [haltFeeds_feeds]
  exact ordered_map Feed.idle h

end Registry

end TableFeed
