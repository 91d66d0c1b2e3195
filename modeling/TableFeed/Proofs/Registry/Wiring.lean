import TableFeed.Proofs.Registry.Change

/-!
# How feeds and pollers are wired together

`Wired` is the invariant of the registry: feeds and the pollers that were not told to stop name each
other, one to one. The direction from poller to feed is the one that calls endanger. A call that
replaces, removes or starts a feed takes away the only name the registry has for the poller before,
so it has to tell that poller to stop in the same step.

* **`Wired.vacate`** — the step that installing, removing and the failing start share: the poller of
  one thing is told to stop and the thing is left without one.
* **`Wired.engage`** — a new poller is put behind the others and named by a feed that had none.
* **`Wired.change`** — the crux: every change keeps the invariant.
-/

namespace TableFeed

namespace Registry

/-- Feeds and running pollers name each other. -/
structure Wired (r : Registry) : Prop where
  ordered : Ordered r.feeds
  /-- Each feed has a source, -/
  bound : ∀ (id : String) (f : Feed), r.feed? id = some f → f.source < r.sources.length
  /-- and shares it with no other feed. -/
  own : ∀ (id id' : String) (f f' : Feed), r.feed? id = some f → r.feed? id' = some f' →
    f.source = f'.source → id = id'
  /-- The poller that a feed names runs, for this feed. -/
  served : ∀ (id : String) (f : Feed) (p : Nat), r.feed? id = some f → f.poller = some p →
    ∃ q : Poller, r.pollers[p]? = some q ∧ q.ticker.stopped = false ∧
      q.thing = id ∧ q.channel = f.channel ∧ q.source = f.source
  /-- A poller that was not told to stop is named by the feed of its thing. -/
  named : ∀ (p : Nat) (q : Poller), r.pollers[p]? = some q → q.ticker.stopped = false →
    ∃ f : Feed, r.feed? q.thing = some f ∧ f.poller = some p
  exited : ∀ (p : Nat) (q : Poller), r.pollers[p]? = some q → q.phase = .exited →
    q.ticker.stopped = true

/-- An empty registry has nothing to wire. -/
theorem wired_empty : Wired {} where
  ordered := List.Pairwise.nil
  bound _ _ h := absurd h (by simp [feed?])
  own _ _ _ _ h := absurd h (by simp [feed?])
  served _ _ _ h := absurd h (by simp [feed?])
  named _ _ h := absurd h (by simp)
  exited _ _ h := absurd h (by simp)

variable {r r' : Registry}

/-- A poller is named by one feed only. -/
theorem Wired.named_once (hw : Wired r) {id i : String} {f : Feed} {p : Nat}
    (hf : r.feed? i = some f) (hp : f.poller = some p) (hid : r.poller? id = some p) : i = id := by
  obtain ⟨g, hg, hgp⟩ : ∃ g, r.feed? id = some g ∧ g.poller = some p :=
    Option.bind_eq_some_iff.mp hid
  obtain ⟨q, hq, _, hthing, _⟩ := hw.served i f p hf hp
  obtain ⟨q', hq', _, hthing', _⟩ := hw.served id g p hg hgp
  obtain rfl : q = q' := Option.some.inj (hq.symm.trans hq')
  exact hthing.symm.trans hthing'

/-- Only pollers told to stop have exited, if that was so before and no poller is new. -/
theorem exited_of_follows (hw : Wired r) (hfollows : r.Follows r')
    (hlength : r'.pollers.length = r.pollers.length) (p : Nat) (q' : Poller)
    (hq' : r'.pollers[p]? = some q') (hexit : q'.phase = .exited) : q'.ticker.stopped = true := by
  have hlt : p < r.pollers.length := hlength ▸ (List.getElem?_eq_some_iff.mp hq').1
  have hq : r.pollers[p]? = some r.pollers[p] := List.getElem?_eq_getElem hlt
  obtain ⟨q'', hq'', hf⟩ := hfollows p _ hq
  obtain rfl : q' = q'' := Option.some.inj (hq'.symm.trans hq'')
  rcases hf.exits hexit with hbefore | hstop
  · have hstop := hw.exited p _ hq hbefore
    obtain ⟨hticker, _⟩ := hf.winds hstop
    rw [hticker, hstop]
  · exact hstop

/-! ## Steps of pollers -/

/-- The steps of pollers keep the wiring: no feed changes and no poller is told to stop. -/
theorem Wired.stepped (hw : Wired r) (h : Stepped r r') : Wired r' := by
  have hfeed : ∀ i, r'.feed? i = r.feed? i := by
    intro i
    unfold feed?
    rw [h.feeds]
  refine ⟨?_, ?_, ?_, ?_, ?_, ?_⟩
  · rw [h.feeds]
    exact hw.ordered
  · intro id f hf
    rw [hfeed] at hf
    rw [h.sources]
    exact hw.bound id f hf
  · intro id id' f f' hf hf'
    rw [hfeed] at hf hf'
    exact hw.own id id' f f' hf hf'
  · -- the poller that a feed names is still there, and was not told to stop
    intro id f p hf hp
    rw [hfeed] at hf
    obtain ⟨q, hq, hstop, hthing, hchannel, hsource⟩ := hw.served id f p hf hp
    obtain ⟨q', hq', hfollows, hsame⟩ := h.pollers p q hq
    exact ⟨q', hq', hsame.trans hstop, hfollows.thing.trans hthing,
      hfollows.channel.trans hchannel, hfollows.source.trans hsource⟩
  · -- no step makes a poller, so one that runs afterwards ran before
    intro p q' hq' hrun
    have hlt : p < r.pollers.length := h.length ▸ (List.getElem?_eq_some_iff.mp hq').1
    obtain ⟨q'', hq'', hfollows, hsame⟩ := h.pollers p _ (List.getElem?_eq_getElem hlt)
    obtain rfl : q' = q'' := Option.some.inj (hq'.symm.trans hq'')
    obtain ⟨f, hf, hp⟩ := hw.named p _ (List.getElem?_eq_getElem hlt) (hsame.symm.trans hrun)
    exact ⟨f, by rw [hfeed, hfollows.thing, hf], hp⟩
  · exact exited_of_follows hw h.follows h.length

/-! ## Calls -/

/-- The poller of one thing is told to stop and the thing, if it is still there, has none. -/
theorem Wired.vacate (hw : Wired r) {id : String} (hord : Ordered r'.feeds)
    (hothers : ∀ i, i ≠ id → r'.feed? i = r.feed? i)
    (hidle : ∀ f, r'.feed? id = some f → f.poller = none)
    (hpollers : ∀ p, r'.pollers[p]? = (r.pollers[p]?).map (Poller.haltAt (r.poller? id) p))
    (hsources : r.sources.length ≤ r'.sources.length)
    (hbound : ∀ f, r'.feed? id = some f → f.source < r'.sources.length)
    (hown : ∀ f i f', r'.feed? id = some f → i ≠ id → r.feed? i = some f' →
      f.source ≠ f'.source) : Wired r' := by
  have hfollows : r.Follows r' :=
    follows_of_map (fun p q => Poller.follows_haltAt (r.poller? id) p q) hpollers
  refine ⟨hord, ?_, ?_, ?_, ?_, ?_⟩
  · intro i f hf
    by_cases hi : i = id
    · subst hi
      exact hbound f hf
    · rw [hothers i hi] at hf
      exact Nat.lt_of_lt_of_le (hw.bound i f hf) hsources
  · -- of two feeds that share a source at most one is new, and that one has a source of its own
    intro i i' f f' hf hf' heq
    by_cases hi : i = id
    · by_cases hi' : i' = id
      · rw [hi, hi']
      · rw [hothers i' hi'] at hf'
        exact absurd heq (hown f i' f' (hi ▸ hf) hi' hf')
    · rw [hothers i hi] at hf
      by_cases hi' : i' = id
      · exact absurd heq.symm (hown f' i f (hi' ▸ hf') hi hf)
      · rw [hothers i' hi'] at hf'
        exact hw.own i i' f f' hf hf' heq
  · intro i f p hf hp
    by_cases hi : i = id
    · subst hi
      rw [hidle f hf] at hp
      exact absurd hp (by simp)
    · rw [hothers i hi] at hf
      obtain ⟨q, hq, hrest⟩ := hw.served i f p hf hp
      -- the poller told to stop is another one, since no two feeds name the same
      have hne : r.poller? id ≠ some p := fun hid => hi (hw.named_once hf hp hid)
      refine ⟨q, ?_, hrest⟩
      rw [hpollers, hq, Option.map_some, Poller.haltAt_ne hne]
  · -- a poller that runs afterwards was not the one told to stop, so another feed names it
    intro p q' hq' hrun
    rw [hpollers] at hq'
    obtain ⟨q, hq, rfl⟩ := Option.map_eq_some_iff.mp hq'
    obtain ⟨hne, hsame⟩ := Poller.haltAt_running hrun
    rw [hsame] at hrun ⊢
    obtain ⟨f, hf, hp⟩ := hw.named p q hq hrun
    have hthing : q.thing ≠ id := by
      intro heq
      rw [heq] at hf
      exact hne ((poller?_of_feed hf).trans hp)
    exact ⟨f, (hothers q.thing hthing).trans hf, hp⟩
  · refine exited_of_follows hw hfollows ?_
    apply Nat.le_antisymm
    · rw [← List.getElem?_eq_none_iff, hpollers, List.getElem?_eq_none (Nat.le_refl _)]
      rfl
    · -- what is beyond the end afterwards was beyond it before
      rw [← List.getElem?_eq_none_iff]
      have hnone := hpollers r'.pollers.length
      rw [List.getElem?_eq_none (Nat.le_refl _)] at hnone
      exact Option.map_eq_none_iff.mp hnone.symm

/-- A new poller for a feed that has none. -/
theorem Wired.engage (hw : Wired r) {id : String} {f : Feed} (hf : r.feed? id = some f)
    (hidle : f.poller = none) (hord : Ordered r'.feeds) {q : Poller}
    (hfeed : ∀ i, r'.feed? i =
      if i = id then some { f with poller := some r.pollers.length } else r.feed? i)
    (hpollers : r'.pollers = r.pollers ++ [q]) (hsources : r'.sources = r.sources)
    (hrun : q.ticker.stopped = false) (hphase : q.phase = .waiting) (hthing : q.thing = id)
    (hchannel : q.channel = f.channel) (hsource : q.source = f.source) : Wired r' := by
  -- every feed afterwards is one from before, but for the poller it names
  have hback : ∀ i g, r'.feed? i = some g → ∃ g₀, r.feed? i = some g₀ ∧ g.source = g₀.source := by
    intro i g hg
    rw [hfeed] at hg
    split at hg
    · rename_i hi
      rw [← Option.some.inj hg]
      exact ⟨f, hi ▸ hf, rfl⟩
    · exact ⟨g, hg, rfl⟩
  have hnew : r'.pollers[r.pollers.length]? = some q := by
    rw [hpollers]
    exact List.getElem?_concat_length
  -- every poller afterwards is one from before, or the new one
  have hcases : ∀ p o, r'.pollers[p]? = some o →
      r.pollers[p]? = some o ∨ (p = r.pollers.length ∧ o = q) := by
    intro p o ho
    rw [hpollers] at ho
    rcases Nat.lt_or_ge p r.pollers.length with hlt | hge
    · rw [List.getElem?_append_left hlt] at ho
      exact Or.inl ho
    · rw [List.getElem?_append_right hge] at ho
      obtain ⟨hzero, heq⟩ := List.getElem?_eq_some_iff.mp ho
      simp only [List.length_singleton, Nat.lt_one_iff] at hzero
      refine Or.inr ⟨by omega, ?_⟩
      simp only [hzero, List.getElem_cons_zero] at heq
      exact heq.symm
  refine ⟨hord, ?_, ?_, ?_, ?_, ?_⟩
  · intro i g hg
    obtain ⟨g₀, hg₀, hsame⟩ := hback i g hg
    rw [hsame, hsources]
    exact hw.bound i g₀ hg₀
  · intro i i' g g' hg hg' heq
    obtain ⟨g₀, hg₀, hsame⟩ := hback i g hg
    obtain ⟨g₀', hg₀', hsame'⟩ := hback i' g' hg'
    exact hw.own i i' g₀ g₀' hg₀ hg₀' (by rw [← hsame, ← hsame', heq])
  · intro i g p hg hp
    rw [hfeed] at hg
    split at hg
    · rename_i hi
      obtain rfl := Option.some.inj hg
      obtain rfl : r.pollers.length = p := Option.some.inj hp
      exact ⟨q, hnew, hrun, hthing.trans hi.symm, hchannel, hsource⟩
    · obtain ⟨o, ho, hrest⟩ := hw.served i g p hg hp
      have hlt : p < r.pollers.length := (List.getElem?_eq_some_iff.mp ho).1
      refine ⟨o, ?_, hrest⟩
      rw [hpollers, List.getElem?_append_left hlt, ho]
  · intro p o ho hrunning
    rcases hcases p o ho with ho | ⟨rfl, rfl⟩
    · -- the feed that named nobody cannot be the one that names an old poller
      obtain ⟨g, hg, hp⟩ := hw.named p o ho hrunning
      have hne : o.thing ≠ id := by
        intro heq
        rw [heq, hf] at hg
        rw [← Option.some.inj hg, hidle] at hp
        exact absurd hp (by simp)
      exact ⟨g, by rw [hfeed, if_neg hne, hg], hp⟩
    · exact ⟨{ f with poller := some r.pollers.length }, by rw [hfeed, if_pos hthing], rfl⟩
  · intro p o ho hexit
    rcases hcases p o ho with ho | ⟨rfl, rfl⟩
    · exact hw.exited p o ho hexit
    · rw [hphase] at hexit
      exact absurd hexit (by simp)

/-- A feed that is put in has a source of its own and no poller yet. -/
theorem Wired.install (hw : Wired r) (id channel : String) (reader : Reader) :
    Wired (r.install id channel reader) := by
  have hfeed := feed?_install r id channel reader
  have hself : ∀ f, (r.install id channel reader).feed? id = some f →
      f = r.newFeed channel reader := by
    intro f hf
    rw [hfeed, if_pos rfl] at hf
    exact (Option.some.inj hf).symm
  have hlength : (r.install id channel reader).sources.length = r.sources.length + 1 := by
    rw [sources_install]
    exact List.length_append
  apply hw.vacate (ordered_install hw.ordered id channel reader)
    (fun i hi => (hfeed i).trans (if_neg hi)) ?_ (pollers_install r id channel reader)
  · rw [hlength]
    exact Nat.le_succ _
  · intro f hf
    rw [hself f hf, hlength]
    exact Nat.lt_succ_self _
  · intro f i f' hf _ hf'
    rw [hself f hf]
    exact (Nat.ne_of_lt (hw.bound i f' hf')).symm
  · intro f hf
    rw [hself f hf]
    rfl

theorem Wired.installAll (loaded : List (StoredFeed × Reader)) (hw : Wired r) :
    Wired (r.installAll loaded) := by
  induction loaded generalizing r with
  | nil => exact hw
  | cons e rest ih =>
    obtain ⟨f, reader⟩ := e
    exact ih (hw.install f.id f.channel reader)

theorem Wired.remove (hw : Wired r) {id : String} (h : r.remove? id = some r') : Wired r' := by
  have hself : r'.feed? id = none := by rw [feed?_remove h, if_pos rfl]
  apply hw.vacate (ordered_remove h hw.ordered)
    (fun i hi => (feed?_remove h i).trans (if_neg hi)) ?_ (pollers_remove h)
  · rw [sources_remove h]
  · intro f hf
    exact absurd (hself.symm.trans hf) (by simp)
  · intro f i f' hf
    exact absurd (hself.symm.trans hf) (by simp)
  · intro f hf
    exact absurd (hself.symm.trans hf) (by simp)

/-- A start that finds no first tick leaves the thing without a poller. -/
theorem Wired.idle (hw : Wired r) {id : String} {f : Feed} (hf : r.feed? id = some f) :
    Wired { r.halt f.poller with feeds := putFeed id f.idle r.feeds } := by
  have hfeed : ∀ i, ({ r.halt f.poller with feeds := putFeed id f.idle r.feeds } : Registry).feed? i =
      if i = id then some f.idle else r.feed? i := fun i => lookup_putFeed id i f.idle r.feeds
  have hself : ∀ g, (putFeed id f.idle r.feeds).lookup id = some g → g = f.idle := by
    intro g hg
    rw [lookup_putFeed, if_pos rfl] at hg
    exact (Option.some.inj hg).symm
  apply hw.vacate (ordered_putFeed id f.idle hw.ordered)
    (fun i hi => (hfeed i).trans (if_neg hi))
  · intro g hg
    rw [hself g hg]
    rfl
  · intro p
    rw [poller?_of_feed hf]
    exact pollers_halt r f.poller p
  · show _ ≤ (r.halt f.poller).sources.length
    rw [halt_sources]
  · intro g hg
    show g.source < (r.halt f.poller).sources.length
    rw [hself g hg, halt_sources]
    exact hw.bound id f hf
  · intro g i f' hg hi hf' heq
    rw [hself g hg] at heq
    exact hi (hw.own id i f f' hf hf' heq).symm

/-- A ticker that was just started has not been told to stop. -/
theorem stopped_start {interval : Duration} {now : Instant} {t : Ticker}
    (h : Ticker.start? interval now = some t) : t.stopped = false := by
  obtain ⟨due, _, rfl⟩ := Option.map_eq_some_iff.mp h
  rfl

theorem Wired.start (hw : Wired r) (id : String) (traced : Bool) (now : Instant) :
    Wired (r.start id traced now).1 := by
  have h := started r id traced now
  generalize (r.start id traced now).1 = r' at h ⊢
  cases h with
  | unknown _ => exact hw
  | beyond f hf => exact hw.idle hf
  | fresh f ticker hf hticker =>
    -- first the poller before is told to stop, then the new one is named
    have hidle := hw.idle hf
    have hself : (putFeed id f.idle r.feeds).lookup id = some f.idle := by
      rw [lookup_putFeed, if_pos rfl]
    refine hidle.engage hself rfl (ordered_putFeed id _ hw.ordered) ?_ rfl rfl
      (stopped_start hticker) rfl rfl rfl rfl
    intro i
    show (putFeed id _ r.feeds).lookup i =
      if i = id then some { f.idle with poller := some (r.halt f.poller).pollers.length }
      else (putFeed id f.idle r.feeds).lookup i
    rw [lookup_putFeed, lookup_putFeed, halt_length]
    split <;> rfl

/-- After all pollers were told to stop, none is named and none runs. -/
theorem Wired.stopAll (hw : Wired r) : Wired r.stopAll := by
  have hback : ∀ i g, r.stopAll.feed? i = some g → ∃ g₀, r.feed? i = some g₀ ∧ g = g₀.idle := by
    intro i g hg
    rw [feed?_stopAll] at hg
    obtain ⟨g₀, hg₀, heq⟩ := Option.map_eq_some_iff.mp hg
    exact ⟨g₀, hg₀, heq.symm⟩
  refine ⟨ordered_stopAll hw.ordered, ?_, ?_, ?_, ?_, ?_⟩
  · intro i g hg
    obtain ⟨g₀, hg₀, rfl⟩ := hback i g hg
    rw [sources_stopAll]
    exact hw.bound i g₀ hg₀
  · intro i i' g g' hg hg' heq
    obtain ⟨g₀, hg₀, rfl⟩ := hback i g hg
    obtain ⟨g₀', hg₀', rfl⟩ := hback i' g' hg'
    exact hw.own i i' g₀ g₀' hg₀ hg₀' heq
  · intro i g p hg hp
    obtain ⟨g₀, _, rfl⟩ := hback i g hg
    exact absurd hp (by simp [Feed.idle])
  · intro p q' hq' hrun
    rw [pollers_stopAll] at hq'
    obtain ⟨q, hq, rfl⟩ := Option.map_eq_some_iff.mp hq'
    split at hrun
    · exact absurd hrun (by simp)
    · rename_i hnone
      -- a running poller was named by a feed, and so it was told to stop
      obtain ⟨f, hf, hp⟩ := hw.named p q hq hrun
      exact absurd ⟨(q.thing, f), mem_of_lookup hf, hp⟩ hnone
  · refine exited_of_follows hw (follows_stopAll r) ?_
    show (haltFeeds r.feeds r).pollers.length = _
    exact haltFeeds_length r.feeds r

/-- Every change keeps the wiring. -/
theorem Wired.change (hw : Wired r) (h : Change r r') : Wired r' := by
  cases h with
  | keep => exact hw
  | install id channel reader => exact hw.install id channel reader
  | installAll loaded => exact hw.installAll loaded
  | remove id h => exact hw.remove h
  | start id traced now => exact hw.start id traced now
  | stopAll => exact hw.stopAll
  | tick p now => exact hw.stepped (stepped_takeTick r p now)
  | hold p => exact hw.stepped (stepped_holdSource r p)
  | read hq hphase kind reader result =>
    exact hw.stepped (stepped_finishReading hq hphase kind reader result)
  | publish hq hphase =>
    exact hw.stepped (stepped_setPhase hq (by rw [hphase]; exact Nat.le_refl 2) (by simp))
  | settle hq hphase =>
    exact hw.stepped (stepped_setPhase hq (by rw [hphase]; exact Nat.le_succ 1) (by simp))
  | exit p => exact hw.stepped (stepped_exit r p)

end Registry

end TableFeed
