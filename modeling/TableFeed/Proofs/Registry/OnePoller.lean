import TableFeed.Proofs.Registry.Interleaving

/-!
# At most one poller per thing

What the wiring says about pollers, and with it about every run of calls and pollers between each
other.

* **`Wired.unique`**, **`Wired.runs_iff`**, **`Wired.bound_to`** — the pollers that were not told to
  stop are, one to one, those that the feeds name, and each reads its own feed's source.
* **`takeTick_stopped`** — a poller told to stop takes no tick, due or not.
* **`Wired.running_eq`** — if the others have exited, as many pollers are left as feeds have one.
* **`one_poller_per_thing`** — all of it, for every run.
-/

namespace TableFeed

namespace Registry

variable {r : Registry}

/-- No two pollers run for the same thing. -/
theorem Wired.unique (hw : Wired r) {p p' : Nat} {q q' : Poller} (hq : r.pollers[p]? = some q)
    (hq' : r.pollers[p']? = some q') (hrun : q.ticker.stopped = false)
    (hrun' : q'.ticker.stopped = false) (hthing : q.thing = q'.thing) : p = p' := by
  obtain ⟨f, hf, hp⟩ := hw.named p q hq hrun
  obtain ⟨f', hf', hp'⟩ := hw.named p' q' hq' hrun'
  rw [hthing, hf'] at hf
  obtain rfl := Option.some.inj hf
  exact Option.some.inj (hp.symm.trans hp')

/-- A poller runs for a thing exactly when its feed names one. -/
theorem Wired.runs_iff (hw : Wired r) (id : String) :
    (∃ (p : Nat) (q : Poller), r.pollers[p]? = some q ∧ q.ticker.stopped = false ∧ q.thing = id) ↔
      ∃ f, r.feed? id = some f ∧ f.poller.isSome = true := by
  constructor
  · rintro ⟨p, q, hq, hrun, rfl⟩
    obtain ⟨f, hf, hp⟩ := hw.named p q hq hrun
    exact ⟨f, hf, by rw [hp]; rfl⟩
  · rintro ⟨f, hf, hsome⟩
    obtain ⟨p, hp⟩ := Option.isSome_iff_exists.mp hsome
    obtain ⟨q, hq, hrun, hthing, _⟩ := hw.served id f p hf hp
    exact ⟨p, q, hq, hrun, hthing⟩

/-- A poller that runs has not exited, and reads the source of the feed that names it. -/
theorem Wired.bound_to (hw : Wired r) {p : Nat} {q : Poller} (hq : r.pollers[p]? = some q)
    (hrun : q.ticker.stopped = false) : q.phase ≠ .exited ∧ ∃ f, r.feed? q.thing = some f ∧
      f.poller = some p ∧ q.source = f.source ∧ q.channel = f.channel := by
  obtain ⟨f, hf, hp⟩ := hw.named p q hq hrun
  obtain ⟨q', hq', _, _, hchannel, hsource⟩ := hw.served q.thing f p hf hp
  obtain rfl : q = q' := Option.some.inj (hq.symm.trans hq')
  refine ⟨?_, f, hf, hp, hsource, hchannel⟩
  intro hexit
  rw [hw.exited p q hq hexit] at hrun
  exact absurd hrun (by decide)

/-- A poller that was told to stop takes no tick. -/
theorem takeTick_stopped {p : Nat} {q : Poller} (hq : r.pollers[p]? = some q)
    (hstop : q.ticker.stopped = true) (now : Instant) : r.takeTick p now = r := by
  have hready : q.ticker.ready now = false := by
    unfold Ticker.ready
    rw [hstop]
    rfl
  unfold takeTick
  rw [hq]
  simp only [hready]
  split <;> rfl

/-- The numbers of the pollers that run, in order. -/
def runningPollers (r : Registry) : List Nat :=
  r.pollers.findIdxs fun q => !q.ticker.stopped

/-- The numbers of the pollers that the feeds name. -/
def namedPollers (r : Registry) : List Nat :=
  r.feeds.filterMap (·.2.poller)

theorem mem_runningPollers {p : Nat} :
    p ∈ r.runningPollers ↔ ∃ q, r.pollers[p]? = some q ∧ q.ticker.stopped = false := by
  unfold runningPollers
  rw [List.mem_findIdxs_iff_exists_getElem_pos]
  constructor
  · rintro ⟨hlt, hrun⟩
    exact ⟨r.pollers[p], List.getElem?_eq_getElem hlt, by simpa using hrun⟩
  · rintro ⟨q, hq, hrun⟩
    obtain ⟨hlt, rfl⟩ := List.getElem?_eq_some_iff.mp hq
    exact ⟨hlt, by simpa using hrun⟩

theorem Wired.mem_namedPollers (hw : Wired r) {p : Nat} :
    p ∈ r.namedPollers ↔ ∃ q, r.pollers[p]? = some q ∧ q.ticker.stopped = false := by
  unfold namedPollers
  rw [List.mem_filterMap]
  constructor
  · rintro ⟨⟨id, f⟩, hmem, hp⟩
    have hf : r.feed? id = some f := (lookup_eq_some_iff hw.ordered).mpr hmem
    obtain ⟨q, hq, hrun, _⟩ := hw.served id f p hf hp
    exact ⟨q, hq, hrun⟩
  · rintro ⟨q, hq, hrun⟩
    obtain ⟨f, hf, hp⟩ := hw.named p q hq hrun
    exact ⟨(q.thing, f), mem_of_lookup hf, hp⟩

/-- No poller is named twice. -/
theorem Wired.nodup_namedPollers (hw : Wired r) : r.namedPollers.Nodup := by
  refine List.pairwise_filterMap.mpr (hw.ordered.imp_of_mem ?_)
  rintro ⟨id, f⟩ ⟨id', f'⟩ hmem hmem' hlt p hp p' hp' rfl
  have hf : r.feed? id = some f := (lookup_eq_some_iff hw.ordered).mpr hmem
  have hf' : r.feed? id' = some f' := (lookup_eq_some_iff hw.ordered).mpr hmem'
  have heq : id = id' := hw.named_once hf hp ((poller?_of_feed hf').trans hp')
  exact absurd heq (ne_of_lt hlt)

/-- As many pollers run as feeds have one. -/
theorem Wired.length_runningPollers (hw : Wired r) :
    r.runningPollers.length = r.feeds.countP (·.2.poller.isSome) := by
  have hnodup : r.runningPollers.Nodup := List.nodup_findIdxs
  -- neither list has a poller twice, so it is enough that they have the same ones
  have hperm : r.runningPollers.Perm r.namedPollers := by
    refine (List.perm_ext_iff_of_nodup hnodup hw.nodup_namedPollers).mpr ?_
    intro p
    rw [mem_runningPollers, hw.mem_namedPollers]
  rw [hperm.length_eq, namedPollers, List.length_filterMap_eq_countP]

/-- If all others have exited, the pollers that are left are as many as feeds have one. -/
theorem Wired.running_eq (hw : Wired r)
    (hexited : ∀ (p : Nat) (q : Poller), r.pollers[p]? = some q → q.ticker.stopped = true →
      q.phase = .exited) : r.running = r.feeds.countP (·.2.poller.isSome) := by
  rw [← hw.length_runningPollers, runningPollers, List.length_findIdxs]
  unfold running
  apply List.countP_congr
  intro q hmem
  obtain ⟨p, hq⟩ := List.mem_iff_getElem?.mp hmem
  have hstop := hw.exited p q hq
  have hexit := hexited p q hq
  cases h : q.ticker.stopped with
  | true => simp [hexit h]
  | false =>
    have hne : q.phase ≠ .exited := fun heq => by simp [hstop heq] at h
    simp [hne]

end Registry

/-- Whatever calls and pollers do between each other, starting from an adapter without feeds: at
most one poller that was not told to stop runs for a thing, it runs exactly when the feed of the
thing has a poller, and it reads the source of that very feed, which no other feed shares, and
publishes to its channel. Every other poller was told to stop and takes no tick any more, whatever
happens later; it only winds up what it is at. So if those have exited, the pollers that are left
are as many as feeds have one. -/
theorem one_poller_per_thing [Publisher π] (a : Adapter π) (moves : List (Move π)) :
    let s := Machine.run moves (Machine.begin a)
    let r := s.adapter.registry
    (∀ (p p' : Nat) (q q' : Poller), r.pollers[p]? = some q → r.pollers[p']? = some q' →
      q.ticker.stopped = false → q'.ticker.stopped = false → q.thing = q'.thing → p = p') ∧
    (∀ id, (∃ (p : Nat) (q : Poller),
        r.pollers[p]? = some q ∧ q.ticker.stopped = false ∧ q.thing = id) ↔
      ∃ f, r.feed? id = some f ∧ f.poller.isSome = true) ∧
    (∀ (p : Nat) (q : Poller), r.pollers[p]? = some q → q.ticker.stopped = false →
      q.phase ≠ .exited ∧ ∃ f, r.feed? q.thing = some f ∧ f.poller = some p ∧
        q.source = f.source ∧ q.channel = f.channel ∧
        ∀ i g, r.feed? i = some g → g.source = f.source → i = q.thing) ∧
    (∀ (p : Nat) (q : Poller), r.pollers[p]? = some q → q.ticker.stopped = true →
      ∀ more : List (Move π), (Machine.run more s).step (.tick p) = Machine.run more s ∧
        ∃ q' : Poller, (Machine.run more s).adapter.registry.pollers[p]? = some q' ∧
          q'.ticker = q.ticker ∧ q'.phase.left ≤ q.phase.left) ∧
    ((∀ (p : Nat) (q : Poller), r.pollers[p]? = some q → q.ticker.stopped = true →
        q.phase = .exited) →
      r.running = r.feeds.countP (·.2.poller.isSome)) := by
  intro s r
  have hw : r.Wired := Machine.wired_reached a moves
  refine ⟨?_, hw.runs_iff, ?_, ?_, hw.running_eq⟩
  · intro p p' q q' hq hq' hrun hrun' hthing
    exact hw.unique hq hq' hrun hrun' hthing
  · intro p q hq hrun
    obtain ⟨halive, f, hf, hp, hsource, hchannel⟩ := hw.bound_to hq hrun
    refine ⟨halive, f, hf, hp, hsource, hchannel, ?_⟩
    intro i g hg hsame
    exact hw.own i q.thing g f hg hf hsame
  · -- once told to stop it stays so, however the run goes on
    intro p q hq hstop more
    obtain ⟨q', hq', hfollows⟩ := Machine.follows_run more s p q hq
    obtain ⟨hticker, hleft⟩ := hfollows.winds hstop
    refine ⟨?_, q', hq', hticker, hleft⟩
    have hstop' : q'.ticker.stopped = true := by rw [hticker, hstop]
    show ({ Machine.run more s with
      adapter := { (Machine.run more s).adapter with registry := _ } } : Machine π) = _
    rw [Registry.takeTick_stopped hq' hstop']

end TableFeed
