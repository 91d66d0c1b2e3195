import TableFeed.Proofs.Registry.OnePoller

/-!
# The pollers of a thing are told to stop

What replaces, removes or starts a thing tells the one poller to stop that the feed of the thing names.
In a wired registry no other poller of the thing runs, so afterwards all pollers of the thing have been
told to stop, and no other has (`Registry.halted`). Said so, it no longer matters which poller the feed
named, and halting one thing after the other is halting all of them.

* **`Wired.halted_eq`** — the crux: telling the named poller to stop halts the thing.
* **`pollers_installed`**, **`pollers_installedAll`**, **`pollers_removed`**, **`pollers_started`** — the
  pollers after each of the operations, as one list.
-/

namespace TableFeed

namespace Poller

/-- A poller that was told to stop is told nothing new. -/
theorem stop_eq {q : Poller} (h : q.ticker.stopped = true) : q.stop = q := by
  show ({ q with ticker := { q.ticker with stopped := true } } : Poller) = q
  rw [← h]

/-- The poller, told to stop if it is of one of some things. -/
def haltOf (things : List String) (q : Poller) : Poller :=
  if q.thing ∈ things then q.stop else q

variable {things : List String} {q : Poller}

theorem haltOf_of_mem (h : q.thing ∈ things) : q.haltOf things = q.stop :=
  if_pos h

theorem haltOf_of_not_mem (h : q.thing ∉ things) : q.haltOf things = q :=
  if_neg h

theorem haltOf_haltOf (first later : List String) (q : Poller) :
    (q.haltOf first).haltOf later = q.haltOf (first ++ later) := by
  by_cases hfirst : q.thing ∈ first
  · -- being told a second time changes nothing
    rw [haltOf_of_mem hfirst, haltOf_of_mem (List.mem_append_left _ hfirst), haltOf,
      stop_eq q.stop_stopped]
    exact ite_self _
  · rw [haltOf_of_not_mem hfirst]
    simp only [haltOf, List.mem_append, hfirst, false_or]

end Poller

namespace Registry

/-- Pollers, those of some things told to stop. -/
def halted (things : List String) (pollers : List Poller) : List Poller :=
  pollers.map (Poller.haltOf things)

theorem length_halted (things : List String) (l : List Poller) :
    (halted things l).length = l.length :=
  List.length_map _

theorem halted_halted (first later : List String) (l : List Poller) :
    halted later (halted first l) = halted (first ++ later) l := by
  unfold halted
  rw [List.map_map]
  exact List.map_congr_left fun q _ => q.haltOf_haltOf first later

/-- A poller that still runs is of another thing. -/
theorem thing_of_halted {things : List String} {l : List Poller} {q : Poller}
    (hq : q ∈ halted things l) (hrun : q.ticker.stopped = false) : q.thing ∉ things := by
  obtain ⟨q, -, rfl⟩ := List.mem_map.mp hq
  by_cases hthing : q.thing ∈ things
  · rw [Poller.haltOf_of_mem hthing] at hrun
    cases hrun
  · rwa [Poller.haltOf_of_not_mem hthing]

variable {r r' : Registry}

/-- Telling the poller to stop that the feed of a thing names halts the thing. -/
theorem Wired.halted_eq (hw : Wired r) {id : String} {l : List Poller}
    (h : ∀ p, l[p]? = (r.pollers[p]?).map (Poller.haltAt (r.poller? id) p)) :
    l = halted [id] r.pollers := by
  refine List.ext_getElem? fun p => ?_
  rw [h, halted, List.getElem?_map]
  cases hq : r.pollers[p]? with
  | none => rfl
  | some q =>
    refine congrArg some ?_
    by_cases hthing : q.thing = id
    · rw [Poller.haltOf_of_mem (List.mem_singleton.mpr hthing)]
      cases hstop : q.ticker.stopped with
      | false =>
        obtain ⟨f, hf, hp⟩ := hw.named p q hq hstop
        rw [hthing] at hf
        rw [poller?_of_feed hf, hp, Poller.haltAt_self]
      | true =>
        -- a poller told to stop earlier stays as it is, whether it is told again or not
        unfold Poller.haltAt
        rw [Poller.stop_eq hstop]
        exact ite_self _
    · have hne : r.poller? id ≠ some p := by
        intro hnamed
        obtain ⟨f, hf, hp⟩ := Option.bind_eq_some_iff.mp hnamed
        obtain ⟨q', hq', -, hthing', -⟩ := hw.served id f p hf hp
        obtain rfl : q = q' := Option.some.inj (hq.symm.trans hq')
        exact hthing hthing'
      rw [Poller.haltAt_ne hne,
        Poller.haltOf_of_not_mem fun hmem => hthing (List.mem_singleton.mp hmem)]

theorem pollers_installed (hw : Wired r) (id channel : String) (reader : Reader) :
    (r.install id channel reader).pollers = halted [id] r.pollers :=
  hw.halted_eq (pollers_install r id channel reader)

theorem pollers_installedAll (loaded : List (StoredFeed × Reader)) (hw : Wired r) :
    (r.installAll loaded).pollers = halted (loaded.map (·.1.id)) r.pollers := by
  induction loaded generalizing r with
  | nil => exact (List.map_id _).symm
  | cons e rest ih =>
    have hstep : r.installAll (e :: rest) = (r.install e.1.id e.1.channel e.2).installAll rest := rfl
    rw [hstep, ih (hw.install e.1.id e.1.channel e.2), pollers_installed hw, halted_halted]
    rfl

theorem pollers_removed (hw : Wired r) {id : String} (h : r.remove? id = some r') :
    r'.pollers = halted [id] r.pollers :=
  hw.halted_eq (pollers_remove h)

/-- A poller that is started stands behind all others. -/
theorem pollers_started (hw : Wired r) {id : String} {f : Feed} (hf : r.feed? id = some f)
    (traced : Bool) {now : Instant} {ticker : Ticker}
    (hticker : Ticker.start? f.interval now = some ticker) :
    (r.start id traced now).1.pollers = halted [id] r.pollers ++
      [{ thing := id, channel := f.channel, source := f.source, traced, ticker }] := by
  have hhalted : (r.halt f.poller).pollers = halted [id] r.pollers :=
    hw.halted_eq fun p => by rw [poller?_of_feed hf, pollers_halt]
  rw [← hhalted]
  simp only [start, hf, hticker]

end Registry

end TableFeed
