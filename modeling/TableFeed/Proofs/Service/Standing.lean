import TableFeed.Proofs.Registry.Locks
import TableFeed.Proofs.Registry.OnePoller
import TableFeed.Proofs.Service.Deeds

/-!
# How things stand

A `Standing` is what can be told of a thing from outside: the line that the store keeps of it, and whether
a poller runs for it. Standings determine what the store is to keep, and an installation or a removal
changes the standing of its own thing only.

* **`stored_congr`** — registries whose things have the same lines want the same kept.
* **`standing?_started`**, **`standing?_removed`** — how things stand after an installation that was
  started, and after a removal.
-/

namespace TableFeed

namespace Registry

/-- How a thing stands. -/
structure Standing where
  line : StoredFeed
  polled : Bool

/-- How the thing of an id stands, if there is one. -/
def standing? (r : Registry) (id : String) : Option Standing :=
  (r.feed? id).map fun f => ⟨r.line (id, f), f.poller.isSome⟩

variable {r r' : Registry}

theorem standing?_eq_none {id : String} : r.standing? id = none ↔ r.feed? id = none :=
  Option.map_eq_none_iff

/-- A thing is polled if a poller runs for it. -/
theorem polled_iff (hwired : r.Wired) (id : String) :
    (∃ (p : Nat) (q : Poller), r.pollers[p]? = some q ∧ q.ticker.stopped = false ∧ q.thing = id) ↔
      ∃ x, r.standing? id = some x ∧ x.polled = true := by
  rw [hwired.runs_iff]
  constructor
  · rintro ⟨f, hf, hpoller⟩
    exact ⟨⟨r.line (id, f), f.poller.isSome⟩, by rw [standing?, hf]; rfl, hpoller⟩
  · rintro ⟨x, hx, hpolled⟩
    obtain ⟨f, hf, rfl⟩ := Option.map_eq_some_iff.mp hx
    exact ⟨f, hf, hpolled⟩

/-- What the store is to keep is determined by the lines of all ids. -/
theorem stored_congr (h : Ordered r.feeds) (h' : Ordered r'.feeds)
    (hlines : ∀ id, (r'.standing? id).map (·.line) = (r.standing? id).map (·.line)) :
    r'.stored = r.stored := by
  have hmem : ∀ {s : Registry}, Ordered s.feeds → ∀ x, x ∈ s.stored ↔
      (s.standing? x.id).map (·.line) = some x := by
    intro s hs x
    rw [stored_eq, List.mem_map, standing?, Option.map_map, Option.map_eq_some_iff]
    constructor
    · rintro ⟨⟨id, f⟩, hf, rfl⟩
      exact ⟨f, (lookup_eq_some_iff hs).mpr hf, rfl⟩
    · rintro ⟨f, hf, hx⟩
      exact ⟨(x.id, f), (lookup_eq_some_iff hs).mp hf, hx⟩
  have hincreasing : ∀ {s : Registry}, Ordered s.feeds →
      s.stored.Pairwise fun x y => x.id < y.id := by
    intro s hs
    rw [stored_eq]
    exact List.pairwise_map.mpr hs
  have hnodup : ∀ {s : Registry}, Ordered s.feeds → s.stored.Nodup := by
    intro s hs
    exact (hincreasing hs).imp fun hlt heq => absurd (heq ▸ hlt) (lt_irrefl _)
  -- both hold the same lines, and both in the order of the ids
  have hperm : r'.stored.Perm r.stored := by
    refine (List.perm_ext_iff_of_nodup (hnodup h') (hnodup h)).mpr fun x => ?_
    rw [hmem h', hmem h, hlines]
  refine hperm.eq_of_pairwise ?_ (hincreasing h') (hincreasing h)
  intro x y _ _ hxy hyx
  exact absurd (lt_trans hxy hyx) (lt_irrefl _)

theorem ids_eq (r : Registry) : r.ids = r.stored.map (·.id) := by
  rw [stored_eq, List.map_map]
  rfl

/-! ## Steps -/

theorem line_congr {e : String × Feed} (hsource : r'.sources[e.2.source]? = r.sources[e.2.source]?) :
    r'.line e = r.line e := by
  simp only [line, hsource]

/-- Starting fails for want of a first tick only. -/
theorem start_failure {id : String} {f : Feed} (hf : r.feed? id = some f) (traced : Bool)
    (now : Instant) :
    (r.start id traced now).2 = none ↔ (Ticker.start? f.interval now).isSome = true := by
  cases hticker : Ticker.start? f.interval now <;> simp [start, hf, hticker]

theorem feed?_started {id : String} {f : Feed} (hf : r.feed? id = some f) (traced : Bool)
    {now : Instant} {ticker : Ticker} (hticker : Ticker.start? f.interval now = some ticker)
    (i : String) : (r.start id traced now).1.feed? i =
      if i = id then some { f with poller := some r.pollers.length } else r.feed? i := by
  simp only [start, hf, hticker, halt_length]
  show (putFeed id _ (r.halt f.poller).feeds).lookup i = _
  rw [lookup_putFeed, halt_feeds]
  rfl

/-- A thing that is put in and started stands as its reader says, and is polled. -/
theorem standing?_started (hwired : r.Wired) {id channel : String} {reader : Reader} {now : Instant}
    {ticker : Ticker} (hticker : Ticker.start? (.interval reader.interval) now = some ticker)
    (i : String) :
    ((r.install id channel reader).start id false now).1.standing? i =
      if i = id then some ⟨⟨id, channel, reader.metadata⟩, true⟩ else r.standing? i := by
  have hsources : ((r.install id channel reader).start id false now).1.sources =
      r.sources ++ [{ reader, snapshot := reader.metadata }] := by
    rw [sources_start, sources_install]
  have hnew : (r.install id channel reader).feed? id = some (r.newFeed channel reader) := by
    rw [feed?_install, if_pos rfl]
  have hfeed := feed?_started hnew false hticker i
  unfold standing?
  rw [hfeed]
  by_cases hi : i = id
  · -- its source stands behind all others
    rw [if_pos hi, if_pos hi, hi]
    simp [line, hsources, newFeed]
  · rw [if_neg hi, if_neg hi, feed?_install, if_neg hi]
    cases hf : r.feed? i with
    | none => rfl
    | some f =>
      have hbound := hwired.bound i f hf
      show some (Standing.mk _ _) = some (Standing.mk _ _)
      rw [line_congr (r := r)]
      show (Registry.sources _)[f.source]? = _
      rw [hsources, List.getElem?_append_left hbound]

/-- A thing that is removed is gone. -/
theorem standing?_removed {id : String} (h : r.remove? id = some r') (i : String) :
    r'.standing? i = if i = id then none else r.standing? i := by
  have hline : ∀ e, r'.line e = r.line e := fun e => by simp only [line, sources_remove h]
  unfold standing?
  rw [feed?_remove h]
  split
  · rfl
  · simp only [hline]

/-- Starting a poller leaves what the store is to keep. -/
theorem stored_start (hwired : r.Wired) (id : String) (traced : Bool) (now : Instant) :
    (r.start id traced now).1.stored = r.stored := by
  obtain ⟨hsources, hfeeds⟩ := sameThings_start r id traced now
  refine stored_congr hwired.ordered (hwired.change (.start id traced now)).ordered fun i => ?_
  -- the line of a feed is that of the idle feed
  have hline : ∀ s : Registry, (s.standing? i).map (·.line) =
      ((s.feed? i).map Feed.idle).map fun f => s.line (i, f) := by
    intro s
    rw [standing?, Option.map_map, Option.map_map]
    rfl
  rw [hline, hline, hfeeds]
  simp only [line, hsources]

end Registry

end TableFeed
