import TableFeed.Proofs.Registry.Interleaving

/-!
# Where feeds and pollers come from

A feed reads the source that it was put in with, and a poller reads the source of the feed that it was
started for, long after that feed is gone. No number of a source is given twice, so a poller that
outlives its feed never comes to read the source of another.

* **`feed?_installAll`**, **`feed?_start`** — which feed a lookup finds after the two operations that put
  feeds in.
* **`Change.feed_cases`**, **`Change.poller_cases`** — a feed or a poller was there before, or it is new and
  has a new source or the source of a feed.
* **`Owned`** — the invariant that follows: of all feeds, only the one of its own thing can share a
  poller's source.
* **`Held`** — a source is held by the poller that reads it, and by no other.
-/

namespace TableFeed

namespace Registry

variable {r r' : Registry}

/-! ## Feeds -/

theorem sources_installAll (loaded : List (StoredFeed × Reader)) (r : Registry) :
    (r.installAll loaded).sources =
      r.sources ++ loaded.map fun e => { reader := e.2, snapshot := e.2.metadata } := by
  induction loaded generalizing r with
  | nil => exact (List.append_nil _).symm
  | cons e rest ih =>
    show ((r.install e.1.id e.1.channel e.2).installAll rest).sources = _
    rw [ih, sources_install, List.append_assoc]
    rfl

theorem sources_start (r : Registry) (id : String) (traced : Bool) (now : Instant) :
    (r.start id traced now).1.sources = r.sources := by
  have h := started r id traced now
  generalize (r.start id traced now).1 = r' at h ⊢
  cases h with
  | unknown _ => rfl
  | beyond f _ => exact halt_sources r f.poller
  | fresh f ticker _ _ => exact halt_sources r f.poller

/-- A feed that stands under an id after several were put in is the last of them with that id, or it
stood there before and none of them has the id. -/
theorem feed?_installAll {loaded : List (StoredFeed × Reader)} {i : String} {f : Feed}
    (h : (r.installAll loaded).feed? i = some f) :
    (r.feed? i = some f ∧ ∀ e ∈ loaded, e.1.id ≠ i) ∨
      ∃ k e, loaded[k]? = some e ∧ e.1.id = i ∧ f.channel = e.1.channel ∧
        f.source = r.sources.length + k ∧ ∀ j d, k < j → loaded[j]? = some d → d.1.id ≠ i := by
  induction loaded generalizing r with
  | nil => exact .inl ⟨h, List.forall_mem_nil _⟩
  | cons e rest ih =>
    rcases ih (r := r.install e.1.id e.1.channel e.2) h with ⟨hf, hrest⟩ | ⟨k, d, hd, hid, hch, hsource, hlast⟩
    · rw [feed?_install] at hf
      split at hf
      · rename_i hi
        obtain rfl := Option.some.inj hf
        refine .inr ⟨0, e, rfl, hi.symm, rfl, rfl, ?_⟩
        intro j d hj hd
        obtain ⟨j, rfl⟩ := Nat.exists_eq_succ_of_ne_zero (Nat.ne_of_gt hj)
        exact hrest d (List.mem_of_getElem? hd)
      · rename_i hi
        refine .inl ⟨hf, ?_⟩
        intro d hd
        rcases List.mem_cons.mp hd with rfl | hd
        · exact fun heq => hi heq.symm
        · exact hrest d hd
    · refine .inr ⟨k + 1, d, hd, hid, hch, ?_, ?_⟩
      · rw [hsource, sources_install, List.length_append, List.length_singleton]
        omega
      · intro j d' hj hd'
        obtain ⟨j, rfl⟩ := Nat.exists_eq_succ_of_ne_zero (Nat.ne_of_gt (Nat.lt_of_le_of_lt (Nat.zero_le _) hj))
        exact hlast j d' (Nat.lt_of_succ_lt_succ hj) hd'

/-- Starting a poller changes of a feed only which poller it names. -/
theorem feed?_start {id i : String} {traced : Bool} {now : Instant} {f' : Feed}
    (h : (r.start id traced now).1.feed? i = some f') :
    ∃ f, r.feed? i = some f ∧ f'.source = f.source ∧ f'.channel = f.channel := by
  have hput : ∀ {f g : Feed}, r.feed? id = some f → g.source = f.source → g.channel = f.channel →
      (putFeed id g r.feeds).lookup i = some f' →
      ∃ f, r.feed? i = some f ∧ f'.source = f.source ∧ f'.channel = f.channel := by
    intro f g hf hsource hchannel hlookup
    rw [lookup_putFeed] at hlookup
    split at hlookup
    · rename_i hi
      rw [hi, ← Option.some.inj hlookup]
      exact ⟨f, hf, hsource, hchannel⟩
    · exact ⟨f', hlookup, rfl, rfl⟩
  have hstarted := started r id traced now
  generalize (r.start id traced now).1 = r' at hstarted h
  cases hstarted with
  | unknown _ => exact ⟨f', h, rfl, rfl⟩
  | beyond f hf => exact hput (g := f.idle) hf rfl rfl h
  | fresh f ticker hf _ => exact hput (g := { f with poller := some r.pollers.length }) hf rfl rfl h

/-- A feed that stands under an id after a removal stood there before, under another id than the one
removed. -/
theorem feed?_of_remove {id i : String} {f : Feed} (h : r.remove? id = some r')
    (hf : r'.feed? i = some f) : r.feed? i = some f := by
  rw [feed?_remove h] at hf
  split at hf
  · cases hf
  · exact hf

theorem feed?_of_stopAll {i : String} {f' : Feed} (h : r.stopAll.feed? i = some f') :
    ∃ f, r.feed? i = some f ∧ f'.source = f.source ∧ f'.channel = f.channel := by
  rw [feed?_stopAll] at h
  obtain ⟨f, hf, rfl⟩ := Option.map_eq_some_iff.mp h
  exact ⟨f, hf, rfl, rfl⟩

theorem Stepped.feed? (h : Stepped r r') (i : String) : r'.feed? i = r.feed? i := by
  unfold Registry.feed?
  rw [h.feeds]

/-! ## Changes -/

/-- No change takes a source away. -/
theorem Change.sources_length (h : Change r r') : r.sources.length ≤ r'.sources.length := by
  have hsame : r'.sources.length = r.sources.length → r.sources.length ≤ r'.sources.length :=
    fun heq => heq ▸ Nat.le_refl _
  cases h with
  | keep => exact Nat.le_refl _
  | install id channel reader =>
    rw [sources_install, List.length_append]
    exact Nat.le_add_right _ _
  | installAll loaded =>
    rw [sources_installAll, List.length_append]
    exact Nat.le_add_right _ _
  | remove id h => exact hsame (congrArg _ (sources_remove h))
  | start id traced now => exact hsame (congrArg _ (sources_start r id traced now))
  | stopAll => exact hsame (congrArg _ (sources_stopAll r))
  | tick p now => exact hsame (stepped_takeTick r p now).sources
  | hold p => exact hsame (stepped_holdSource r p).sources
  | read hq hphase kind reader result =>
    exact hsame (stepped_finishReading hq hphase kind reader result).sources
  | publish _ _ => exact Nat.le_refl _
  | settle _ _ => exact Nat.le_refl _
  | exit p => exact Nat.le_refl _

/-- A feed after a change is one from before, or it has a source that is new. -/
theorem Change.feed_cases (h : Change r r') {i : String} {f' : Feed} (hf' : r'.feed? i = some f') :
    (∃ f, r.feed? i = some f ∧ f'.source = f.source ∧ f'.channel = f.channel) ∨
      r.sources.length ≤ f'.source := by
  have hsame : (∀ j, r'.feed? j = r.feed? j) →
      ∃ f, r.feed? i = some f ∧ f'.source = f.source ∧ f'.channel = f.channel :=
    fun heq => ⟨f', by rw [← heq, hf'], rfl, rfl⟩
  cases h with
  | keep => exact .inl (hsame fun _ => rfl)
  | install id channel reader =>
    rw [feed?_install] at hf'
    split at hf'
    · rw [← Option.some.inj hf']
      exact .inr (Nat.le_refl _)
    · exact .inl ⟨f', hf', rfl, rfl⟩
  | installAll loaded =>
    rcases feed?_installAll hf' with ⟨hf, -⟩ | ⟨k, e, -, -, -, hsource, -⟩
    · exact .inl ⟨f', hf, rfl, rfl⟩
    · rw [hsource]
      exact .inr (Nat.le_add_right _ _)
  | remove id h => exact .inl ⟨f', feed?_of_remove h hf', rfl, rfl⟩
  | start id traced now => exact .inl (feed?_start hf')
  | stopAll => exact .inl (feed?_of_stopAll hf')
  | tick p now => exact .inl (hsame (stepped_takeTick r p now).feed?)
  | hold p => exact .inl (hsame (stepped_holdSource r p).feed?)
  | read hq hphase kind reader result =>
    exact .inl (hsame (stepped_finishReading hq hphase kind reader result).feed?)
  | publish _ _ => exact .inl (hsame fun _ => rfl)
  | settle _ _ => exact .inl (hsame fun _ => rfl)
  | exit p => exact .inl (hsame fun _ => rfl)

/-- No poller of the one registry is new. -/
def NoneNew (r r' : Registry) : Prop :=
  ∀ (p : Nat) (q' : Poller), r'.pollers[p]? = some q' →
    ∃ q : Poller, r.pollers[p]? = some q ∧ q.Follows q'

theorem noneNew_of_map {g : Nat → Poller → Poller} (hg : ∀ p q, Poller.Follows q (g p q))
    (h : ∀ p, r'.pollers[p]? = (r.pollers[p]?).map (g p)) : r.NoneNew r' := by
  intro p q' hq'
  rw [h] at hq'
  obtain ⟨q, hq, rfl⟩ := Option.map_eq_some_iff.mp hq'
  exact ⟨q, hq, hg p q⟩

theorem noneNew_installAll (loaded : List (StoredFeed × Reader)) (r : Registry) :
    r.NoneNew (r.installAll loaded) := by
  induction loaded generalizing r with
  | nil => exact fun p q hq => ⟨q, hq, Poller.Follows.refl q⟩
  | cons e rest ih =>
    intro p q'' hq''
    obtain ⟨q', hq', hfollows'⟩ := ih (r.install e.1.id e.1.channel e.2) p q'' hq''
    have hinstall : r.NoneNew (r.install e.1.id e.1.channel e.2) :=
      noneNew_of_map (fun p q => Poller.follows_haltAt (r.poller? e.1.id) p q)
        (pollers_install r e.1.id e.1.channel e.2)
    obtain ⟨q, hq, hfollows⟩ := hinstall p q' hq'
    exact ⟨q, hq, hfollows.trans hfollows'⟩

theorem Stepped.noneNew (h : Stepped r r') : r.NoneNew r' := by
  intro p q' hq'
  have hlt : p < r.pollers.length := h.length ▸ (List.getElem?_eq_some_iff.mp hq').1
  obtain ⟨q'', hq'', hfollows, -⟩ := h.pollers p _ (List.getElem?_eq_getElem hlt)
  obtain rfl : q' = q'' := Option.some.inj (hq'.symm.trans hq'')
  exact ⟨_, List.getElem?_eq_getElem hlt, hfollows⟩

/-- A poller after a change is one from before, or it is new, waits, and reads for a feed. -/
theorem Change.poller_cases (h : Change r r') {p : Nat} {q' : Poller}
    (hq' : r'.pollers[p]? = some q') :
    (∃ q, r.pollers[p]? = some q ∧ q.Follows q') ∨
      (p = r.pollers.length ∧ q'.phase = .waiting ∧
        ∃ f, r.feed? q'.thing = some f ∧ q'.source = f.source ∧ q'.channel = f.channel) := by
  cases h with
  | keep => exact .inl ⟨q', hq', Poller.Follows.refl q'⟩
  | install id channel reader =>
    exact .inl (noneNew_of_map (fun p q => Poller.follows_haltAt (r.poller? id) p q)
      (pollers_install r id channel reader) p q' hq')
  | installAll loaded => exact .inl (noneNew_installAll loaded r p q' hq')
  | remove id h =>
    exact .inl (noneNew_of_map (fun p q => Poller.follows_haltAt (r.poller? id) p q)
      (pollers_remove h) p q' hq')
  | stopAll =>
    refine .inl (noneNew_of_map (fun p q => ?_) (pollers_stopAll r) p q' hq')
    split
    · exact Poller.follows_stop q
    · exact Poller.Follows.refl q
  | tick p now => exact .inl ((stepped_takeTick r p now).noneNew _ q' hq')
  | hold p => exact .inl ((stepped_holdSource r p).noneNew _ q' hq')
  | read hq hphase kind reader result =>
    exact .inl ((stepped_finishReading hq hphase kind reader result).noneNew _ q' hq')
  | publish hq hphase =>
    exact .inl ((stepped_setPhase hq (by rw [hphase]; exact Nat.le_refl 2) (by simp)).noneNew _ q' hq')
  | settle hq hphase =>
    exact .inl ((stepped_setPhase hq (by rw [hphase]; exact Nat.le_succ 1) (by simp)).noneNew _ q' hq')
  | exit p => exact .inl ((stepped_exit r p).noneNew _ q' hq')
  | start id traced now =>
    have hhalt : ∀ n, r.NoneNew (r.halt n) := fun n =>
      noneNew_of_map (fun p q => Poller.follows_haltAt n p q) (pollers_halt r n)
    have hstarted := started r id traced now
    generalize (r.start id traced now).1 = r' at hstarted hq'
    cases hstarted with
    | unknown _ => exact .inl ⟨q', hq', Poller.Follows.refl q'⟩
    | beyond f _ => exact .inl (hhalt f.poller p q' hq')
    | fresh f ticker hf _ =>
      rcases Nat.lt_or_ge p (r.halt f.poller).pollers.length with hlt | hge
      · exact .inl (hhalt f.poller p q' ((List.getElem?_append_left hlt).symm.trans hq'))
      · -- behind all others stands the one that was started
        have hlast := (List.getElem?_append_right hge).symm.trans hq'
        obtain ⟨hzero, hq⟩ := List.getElem?_eq_some_iff.mp hlast
        simp only [List.length_singleton, Nat.lt_one_iff] at hzero
        simp only [hzero, List.getElem_cons_zero] at hq
        have hlength := halt_length r f.poller
        subst hq
        exact .inr ⟨by omega, rfl, f, hf, rfl, rfl⟩

/-! ## Pollers and the sources of feeds -/

/-- A poller has a source, which the feeds of other things do not share. -/
structure Owned (r : Registry) : Prop where
  placed : ∀ (p : Nat) (q : Poller), r.pollers[p]? = some q → q.source < r.sources.length
  thing : ∀ (p : Nat) (q : Poller) (id : String) (f : Feed), r.pollers[p]? = some q →
    r.feed? id = some f → f.source = q.source → q.thing = id

theorem owned_empty : Owned {} where
  placed _ _ h := absurd h (by simp)
  thing _ _ _ _ h := absurd h (by simp)

/-- Every change keeps pollers away from the sources of other things. -/
theorem Owned.change (ho : Owned r) (hw : Wired r) (h : Change r r') : Owned r' where
  placed := by
    intro p q' hq'
    refine Nat.lt_of_lt_of_le ?_ h.sources_length
    rcases h.poller_cases hq' with ⟨q, hq, hfollows⟩ | ⟨-, -, f, hf, hsource, -⟩
    · rw [hfollows.source]
      exact ho.placed p q hq
    · rw [hsource]
      exact hw.bound _ f hf
  thing := by
    intro p q' id f' hq' hf' hshared
    rcases h.poller_cases hq' with ⟨q, hq, hfollows⟩ | ⟨-, -, g, hg, hsource, -⟩
    · rw [hfollows.source] at hshared
      rw [hfollows.thing]
      rcases h.feed_cases hf' with ⟨f, hf, hsame, -⟩ | hnew
      · exact ho.thing p q id f hq hf (hsame.symm.trans hshared)
      · -- a new source has a number that no poller reads
        have hlt := ho.placed p q hq
        omega
    · rw [hsource] at hshared
      rcases h.feed_cases hf' with ⟨f, hf, hsame, -⟩ | hnew
      · exact hw.own q'.thing id g f hg hf (hshared.symm.trans hsame)
      · have hlt := hw.bound _ g hg
        omega

/-! ## Who holds a source -/

/-- A source is held by the poller that reads it. -/
structure Held (r : Registry) : Prop where
  reading : ∀ (p : Nat) (q : Poller), r.pollers[p]? = some q → q.phase = .reading →
    ∃ s, r.sources[q.source]? = some s ∧ s.holder = some p
  holder : ∀ (n : Nat) (s : Source) (p : Nat), r.sources[n]? = some s → s.holder = some p →
    ∃ q : Poller, r.pollers[p]? = some q ∧ q.phase = .reading ∧ q.source = n

theorem held_empty : Held {} where
  reading _ _ h := absurd h (by simp)
  holder _ _ _ h := absurd h (by simp)

/-- What begins and ends no reading, and adds sources that nobody holds, leaves sources held as they
are. -/
theorem Held.quiet (hh : Held r)
    (hsources : ∃ more, r'.sources = r.sources ++ more ∧ ∀ s ∈ more, s.holder = none)
    (hback : ∀ (p : Nat) (q' : Poller), r'.pollers[p]? = some q' → q'.phase = .reading →
      ∃ q : Poller, r.pollers[p]? = some q ∧ q.phase = .reading ∧ q'.source = q.source)
    (hforth : ∀ (p : Nat) (q : Poller), r.pollers[p]? = some q → q.phase = .reading →
      ∃ q' : Poller, r'.pollers[p]? = some q' ∧ q'.phase = .reading ∧ q'.source = q.source) :
    Held r' := by
  obtain ⟨more, hsources, hfree⟩ := hsources
  refine ⟨?_, ?_⟩
  · intro p q' hq' hphase
    obtain ⟨q, hq, hbefore, hsource⟩ := hback p q' hq' hphase
    obtain ⟨s, hs, hheld⟩ := hh.reading p q hq hbefore
    have hlt : q.source < r.sources.length := (List.getElem?_eq_some_iff.mp hs).1
    exact ⟨s, by rw [hsources, hsource, List.getElem?_append_left hlt, hs], hheld⟩
  · intro n s p hs hheld
    rw [hsources] at hs
    rcases Nat.lt_or_ge n r.sources.length with hlt | hge
    · rw [List.getElem?_append_left hlt] at hs
      obtain ⟨q, hq, hbefore, hsource⟩ := hh.holder n s p hs hheld
      obtain ⟨q', hq', hphase, hsame⟩ := hforth p q hq hbefore
      exact ⟨q', hq', hphase, hsame.trans hsource⟩
    · rw [List.getElem?_append_right hge] at hs
      rw [hfree s (List.mem_of_getElem? hs)] at hheld
      cases hheld

/-- Telling pollers to stop begins and ends no reading. -/
theorem Held.halted (hh : Held r) {g : Nat → Poller → Poller}
    (hg : ∀ p q, (g p q).phase = q.phase ∧ (g p q).source = q.source)
    (hsources : ∃ more, r'.sources = r.sources ++ more ∧ ∀ s ∈ more, s.holder = none)
    (hpollers : ∀ p, r'.pollers[p]? = (r.pollers[p]?).map (g p)) : Held r' := by
  refine hh.quiet hsources ?_ ?_
  · intro p q' hq' hphase
    rw [hpollers] at hq'
    obtain ⟨q, hq, rfl⟩ := Option.map_eq_some_iff.mp hq'
    exact ⟨q, hq, (hg p q).1.symm.trans hphase, (hg p q).2⟩
  · intro p q hq hphase
    exact ⟨g p q, by rw [hpollers, hq, Option.map_some], (hg p q).1.trans hphase, (hg p q).2⟩

theorem haltAt_same (n : Option Nat) (p : Nat) (q : Poller) :
    (Poller.haltAt n p q).phase = q.phase ∧ (Poller.haltAt n p q).source = q.source := by
  unfold Poller.haltAt
  split <;> exact ⟨rfl, rfl⟩

/-- The same sources, none of them new. -/
theorem same_sources (h : r'.sources = r.sources) :
    ∃ more, r'.sources = r.sources ++ more ∧ ∀ s ∈ more, s.holder = none :=
  ⟨[], by rw [h, List.append_nil], List.forall_mem_nil _⟩

theorem Held.install (hh : Held r) (id channel : String) (reader : Reader) :
    Held (r.install id channel reader) := by
  refine hh.halted (haltAt_same (r.poller? id)) ⟨_, sources_install r id channel reader, ?_⟩
    (pollers_install r id channel reader)
  intro s hs
  rw [List.mem_singleton.mp hs]

theorem Held.installAll (loaded : List (StoredFeed × Reader)) (hh : Held r) :
    Held (r.installAll loaded) := by
  induction loaded generalizing r with
  | nil => exact hh
  | cons e rest ih => exact ih (hh.install e.1.id e.1.channel e.2)

/-- One poller goes on, to another phase than reading and from another one. -/
theorem Held.set (hh : Held r) {p : Nat} {q q' : Poller} (hq : r.pollers[p]? = some q)
    (hbefore : q.phase ≠ .reading) (hafter : q'.phase ≠ .reading)
    (hsources : r'.sources = r.sources) (hset : r'.pollers = r.pollers.set p q') : Held r' := by
  have hlt : p < r.pollers.length := (List.getElem?_eq_some_iff.mp hq).1
  refine hh.quiet (same_sources hsources) ?_ ?_
  · intro k o ho hphase
    rw [hset] at ho
    by_cases hk : p = k
    · subst hk
      rw [List.getElem?_set_self hlt] at ho
      rw [← Option.some.inj ho] at hphase
      exact absurd hphase hafter
    · rw [List.getElem?_set_ne hk] at ho
      exact ⟨o, ho, hphase, rfl⟩
  · intro k o ho hphase
    by_cases hk : p = k
    · subst hk
      obtain rfl : q = o := Option.some.inj (hq.symm.trans ho)
      exact absurd hphase hbefore
    · exact ⟨o, by rw [hset, List.getElem?_set_ne hk, ho], hphase, rfl⟩

theorem Held.start (hh : Held r) (id : String) (traced : Bool) (now : Instant) :
    Held (r.start id traced now).1 := by
  have hstarted := started r id traced now
  generalize (r.start id traced now).1 = r' at hstarted ⊢
  cases hstarted with
  | unknown _ => exact hh
  | beyond f _ =>
    exact hh.halted (haltAt_same f.poller) (same_sources (halt_sources r f.poller))
      (pollers_halt r f.poller)
  | fresh f ticker _ _ =>
    have hhalted : Held (r.halt f.poller) :=
      hh.halted (haltAt_same f.poller) (same_sources (halt_sources r f.poller))
        (pollers_halt r f.poller)
    refine hhalted.quiet (same_sources rfl) ?_ ?_
    · intro p q' hq' hphase
      rcases Nat.lt_or_ge p (r.halt f.poller).pollers.length with hlt | hge
      · exact ⟨q', (List.getElem?_append_left hlt).symm.trans hq', hphase, rfl⟩
      · -- the poller that was started waits
        have hlast := List.mem_singleton.mp
          (List.mem_of_getElem? ((List.getElem?_append_right hge).symm.trans hq'))
        rw [hlast] at hphase
        cases hphase
    · intro p q hq hphase
      have hlt : p < (r.halt f.poller).pollers.length := (List.getElem?_eq_some_iff.mp hq).1
      exact ⟨q, (List.getElem?_append_left hlt).trans hq, hphase, rfl⟩

/-- One poller goes on, and its source is held as its new phase says. -/
theorem Held.moved (hh : Held r) {p : Nat} {q q' : Poller} {s t : Source}
    (hq : r.pollers[p]? = some q) (hs : r.sources[q.source]? = some s)
    (hset : r'.pollers = r.pollers.set p q') (hsources : r'.sources = r.sources.set q.source t)
    (hsource : q'.source = q.source) (hbefore : ∀ k, s.holder = some k → k = p)
    (hafter : ∀ k, t.holder = some k ↔ k = p ∧ q'.phase = .reading) : Held r' := by
  have hlt : p < r.pollers.length := (List.getElem?_eq_some_iff.mp hq).1
  have hslt : q.source < r.sources.length := (List.getElem?_eq_some_iff.mp hs).1
  refine ⟨?_, ?_⟩
  · intro k o ho hreads
    rw [hset] at ho
    by_cases hk : p = k
    · subst hk
      rw [List.getElem?_set_self hlt] at ho
      obtain rfl := Option.some.inj ho
      refine ⟨t, ?_, (hafter p).mpr ⟨rfl, hreads⟩⟩
      rw [hsources, hsource, List.getElem?_set_self hslt]
    · rw [List.getElem?_set_ne hk] at ho
      obtain ⟨u, hu, hheld⟩ := hh.reading k o ho hreads
      -- nobody else held the source, so another reader has another source
      have hne : q.source ≠ o.source := by
        intro heq
        rw [← heq, hs] at hu
        rw [← Option.some.inj hu] at hheld
        exact hk (hbefore k hheld).symm
      exact ⟨u, by rw [hsources, List.getElem?_set_ne hne, hu], hheld⟩
  · intro n u k hu hheld
    rw [hsources] at hu
    by_cases hn : q.source = n
    · subst hn
      rw [List.getElem?_set_self hslt] at hu
      rw [← Option.some.inj hu] at hheld
      obtain ⟨rfl, hreads⟩ := (hafter k).mp hheld
      exact ⟨q', by rw [hset, List.getElem?_set_self hlt], hreads, hsource⟩
    · rw [List.getElem?_set_ne hn] at hu
      obtain ⟨o, ho, hreads, hown⟩ := hh.holder n u k hu hheld
      have hk : p ≠ k := by
        rintro rfl
        rw [Option.some.inj (hq.symm.trans ho)] at hn
        exact hn hown
      exact ⟨o, by rw [hset, List.getElem?_set_ne hk, ho], hreads, hown⟩

/-- A poller that gets hold of its source is the only one that reads it. -/
theorem Held.holdSource (hh : Held r) (p : Nat) : Held (r.holdSource p) := by
  unfold Registry.holdSource
  split
  · exact hh
  · rename_i q hq
    split
    · rename_i s _ hs
      split
      · exact hh
      · rename_i hfree
        have hnone : s.holder = none := by simpa using hfree
        refine hh.moved (t := { s with holder := some p }) hq hs (setPhase_pollers hq .reading) rfl
          rfl ?_ ?_
        · intro k hk
          rw [hnone] at hk
          cases hk
        · intro k
          simp [eq_comm]
    · exact hh

/-- A poller that ends its reading lets go of its source. -/
theorem Held.finishReading (hh : Held r) {p : Nat} {q : Poller} (hq : r.pollers[p]? = some q)
    (hphase : q.phase = .reading) (kind : ReaderKind) (reader : Reader)
    (result : Except ReadError (List Row)) : Held (r.finishReading p kind reader result) := by
  obtain ⟨s, hs, hheld⟩ := hh.reading p q hq hphase
  have hbefore : ∀ k, s.holder = some k → k = p :=
    fun k hk => (Option.some.inj (hheld.symm.trans hk)).symm
  unfold Registry.finishReading
  rw [hq]
  -- whatever came of the reading, the poller is at another phase and nobody holds its source
  cases result with
  | error e => exact hh.moved hq hs (setPhase_pollers hq .waiting) rfl rfl hbefore (by simp)
  | ok rows => exact hh.moved hq hs (setPhase_pollers hq _) rfl rfl hbefore (by simp)

/-- A poller that exits was not reading. -/
theorem Held.exit (hh : Held r) (p : Nat) : Held (r.exit p) := by
  have hexit : ∀ q : Poller, q.exit.source = q.source ∧
      (q.exit.phase = .reading ↔ q.phase = .reading) := by
    intro q
    unfold Poller.exit
    split
    · rename_i h
      have hphase : q.phase = .waiting := by simp_all [Poller.exiting]
      simp [hphase]
    · exact ⟨rfl, Iff.rfl⟩
  have hpollers : ∀ k, (r.exit p).pollers[k]? =
      (r.pollers[k]?).map fun q => if p = k then q.exit else q := by
    intro k
    show (r.pollers.modify p Poller.exit)[k]? = _
    rw [List.getElem?_modify]
    split <;> simp
  have hsame : ∀ (k : Nat) (q : Poller), (if p = k then q.exit else q).source = q.source ∧
      ((if p = k then q.exit else q).phase = .reading ↔ q.phase = .reading) := by
    intro k q
    split
    · exact hexit q
    · exact ⟨rfl, Iff.rfl⟩
  refine hh.quiet (same_sources rfl) ?_ ?_
  · intro k o ho hphase
    rw [hpollers] at ho
    obtain ⟨q, hq, rfl⟩ := Option.map_eq_some_iff.mp ho
    exact ⟨q, hq, (hsame k q).2.mp hphase, (hsame k q).1⟩
  · intro k q hq hphase
    exact ⟨_, by rw [hpollers, hq, Option.map_some], (hsame k q).2.mpr hphase, (hsame k q).1⟩

/-- Every change keeps sources held by those that read them. -/
theorem Held.change (hh : Held r) (h : Change r r') : Held r' := by
  cases h with
  | keep => exact hh
  | install id channel reader => exact hh.install id channel reader
  | installAll loaded => exact hh.installAll loaded
  | remove id h =>
    exact hh.halted (haltAt_same (r.poller? id)) (same_sources (sources_remove h)) (pollers_remove h)
  | start id traced now => exact hh.start id traced now
  | stopAll =>
    refine hh.halted (fun p q => ?_) (same_sources (sources_stopAll r)) (pollers_stopAll r)
    split <;> exact ⟨rfl, rfl⟩
  | tick p now =>
    unfold takeTick
    split
    · exact hh
    · rename_i q hq
      split
      · rename_i hphase
        split
        · exact hh.set hq (by rw [hphase]; simp) (by simp) rfl rfl
        · exact hh
      · exact hh
  | hold p => exact hh.holdSource p
  | read hq hphase kind reader result => exact hh.finishReading hq hphase kind reader result
  | publish hq hphase =>
    exact hh.set hq (by rw [hphase]; simp) (by simp) rfl (setPhase_pollers hq _)
  | settle hq hphase =>
    exact hh.set hq (by rw [hphase]; simp) (by simp) rfl (setPhase_pollers hq _)
  | exit p => exact hh.exit p

end Registry

end TableFeed
