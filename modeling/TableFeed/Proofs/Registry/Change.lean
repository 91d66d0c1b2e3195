import TableFeed.Proofs.Registry.Pollers
import TableFeed.Proofs.Timing.Ticker

/-!
# What can happen to a registry

`Change` lists the steps a registry can take: one for each operation that a call performs while it
holds the feeds, and one for each step of a poller. Anything that runs on a registry, in whatever
order, is a sequence of changes, so what a change keeps holds for good.

* **`Poller.Follows`** — what a poller is later, compared with what it was. It never changes what it
  reads or where it publishes; and once it was told to stop its ticker stands still and it only
  winds up the poll it is at (`Phase.left` never grows).
* **`Stepped`** — the changes that a poller makes: feeds stay, and no poller is told to stop.
* **`Change.follows`** — the crux: after a change every poller stands at its number and follows the
  one that stood there.
-/

namespace TableFeed

/-- What is left of a poll before the poller waits again, and of the poller before it exits. -/
def Phase.left : Phase → Nat
  | .exited => 0
  | .waiting => 1
  | .publishing .. => 2
  | .reading => 3
  | .ticked => 4

namespace Poller

/-- A poller and what it is some time later. -/
structure Follows (q q' : Poller) : Prop where
  thing : q'.thing = q.thing
  channel : q'.channel = q.channel
  source : q'.source = q.source
  /-- Told to stop, it takes no further tick and at most ends the poll it is at. -/
  winds : q.ticker.stopped = true → q'.ticker = q.ticker ∧ q'.phase.left ≤ q.phase.left
  /-- Only a poller that was told to stop exits. -/
  exits : q'.phase = .exited → q.phase = .exited ∨ q'.ticker.stopped = true

theorem Follows.refl (q : Poller) : q.Follows q :=
  ⟨rfl, rfl, rfl, fun _ => ⟨rfl, Nat.le_refl _⟩, Or.inl⟩

theorem Follows.trans {q q' q'' : Poller} (h : q.Follows q') (h' : q'.Follows q'') :
    q.Follows q'' where
  thing := h'.thing.trans h.thing
  channel := h'.channel.trans h.channel
  source := h'.source.trans h.source
  winds := by
    intro hstop
    obtain ⟨hticker, hleft⟩ := h.winds hstop
    have hstop' : q'.ticker.stopped = true := by rw [hticker, hstop]
    obtain ⟨hticker', hleft'⟩ := h'.winds hstop'
    exact ⟨hticker'.trans hticker, Nat.le_trans hleft' hleft⟩
  exits := by
    intro hexit
    rcases h'.exits hexit with hexit' | hstop'
    · rcases h.exits hexit' with hexit'' | hstop
      · exact Or.inl hexit''
      · -- told to stop before the second step, and so still told to stop after it
        obtain ⟨hticker, _⟩ := h'.winds hstop
        exact Or.inr (by rw [hticker, hstop])
    · exact Or.inr hstop'

/-- Telling a poller to stop leaves it where it is. -/
theorem follows_stop (q : Poller) : q.Follows q.stop where
  thing := rfl
  channel := rfl
  source := rfl
  winds := by
    intro hstop
    refine ⟨?_, Nat.le_refl _⟩
    show ({ q.ticker with stopped := true } : Ticker) = q.ticker
    rw [← hstop]
  exits := Or.inl

theorem follows_haltAt (n : Option Nat) (p : Nat) (q : Poller) : q.Follows (haltAt n p q) := by
  unfold haltAt
  split
  · exact follows_stop q
  · exact Follows.refl q

/-- A poller that goes on to a phase with less left, its ticker untouched. -/
theorem follows_phase (q : Poller) {phase : Phase} (hleft : phase.left ≤ q.phase.left)
    (hexit : phase = .exited → q.ticker.stopped = true) : q.Follows { q with phase } where
  thing := rfl
  channel := rfl
  source := rfl
  winds _ := ⟨rfl, hleft⟩
  exits h := Or.inr (hexit h)

/-- A poller that takes a tick has not been told to stop. -/
theorem follows_take (q : Poller) {now : Instant} (hready : q.ticker.ready now = true) :
    q.Follows { q with ticker := q.ticker.take now, phase := .ticked } where
  thing := rfl
  channel := rfl
  source := rfl
  winds := by
    intro hstop
    unfold Ticker.ready at hready
    rw [hstop] at hready
    exact absurd hready (by simp)
  exits h := by cases h

theorem follows_exit (q : Poller) : q.Follows q.exit := by
  unfold exit
  split
  · rename_i h
    obtain ⟨hstop, hphase⟩ : q.ticker.stopped = true ∧ q.phase = .waiting := by
      simpa [exiting] using h
    exact follows_phase q (by rw [hphase]; decide) fun _ => hstop
  · exact Follows.refl q

theorem exit_stopped (q : Poller) : q.exit.ticker.stopped = q.ticker.stopped := by
  unfold exit
  split <;> rfl

end Poller

namespace Registry

/-! ## Steps of pollers -/

/-- What a poller does to the registry: the feeds stay, the sources keep their numbers, and each
poller goes on without being told to stop. -/
structure Stepped (r r' : Registry) : Prop where
  feeds : r'.feeds = r.feeds
  sources : r'.sources.length = r.sources.length
  length : r'.pollers.length = r.pollers.length
  pollers : ∀ (p : Nat) (q : Poller), r.pollers[p]? = some q → ∃ q' : Poller,
    r'.pollers[p]? = some q' ∧ q.Follows q' ∧ q'.ticker.stopped = q.ticker.stopped

theorem Stepped.refl (r : Registry) : Stepped r r :=
  ⟨rfl, rfl, rfl, fun _ q hq => ⟨q, hq, Poller.Follows.refl q, rfl⟩⟩

/-- One poller goes on and the others stand still. -/
theorem stepped_set {r r' : Registry} {p : Nat} {q q' : Poller} (hq : r.pollers[p]? = some q)
    (hfeeds : r'.feeds = r.feeds) (hsources : r'.sources.length = r.sources.length)
    (hset : r'.pollers = r.pollers.set p q') (hfollows : q.Follows q')
    (hstopped : q'.ticker.stopped = q.ticker.stopped) : Stepped r r' where
  feeds := hfeeds
  sources := hsources
  length := by rw [hset, List.length_set]
  pollers := by
    intro k o ho
    rw [hset]
    by_cases hk : p = k
    · subst hk
      have hlt : p < r.pollers.length := (List.getElem?_eq_some_iff.mp hq).1
      obtain rfl : q = o := Option.some.inj (hq.symm.trans ho)
      exact ⟨q', List.getElem?_set_self hlt, hfollows, hstopped⟩
    · exact ⟨o, by rw [List.getElem?_set_ne hk, ho], Poller.Follows.refl o, rfl⟩

theorem setPhase_pollers {r : Registry} {p : Nat} {q : Poller} (hq : r.pollers[p]? = some q)
    (phase : Phase) : (r.setPhase p phase).pollers = r.pollers.set p { q with phase } := by
  show r.pollers.modify p _ = _
  rw [List.modify_eq_set_getElem?, hq]
  rfl

/-- A poller goes on to a phase with less left. -/
theorem stepped_setPhase {r : Registry} {p : Nat} {q : Poller} (hq : r.pollers[p]? = some q)
    {phase : Phase} (hleft : phase.left ≤ q.phase.left) (hexit : phase ≠ .exited) :
    Stepped r (r.setPhase p phase) :=
  stepped_set hq rfl rfl (setPhase_pollers hq phase)
    (Poller.follows_phase q hleft fun h => absurd h hexit) rfl

theorem stepped_takeTick (r : Registry) (p : Nat) (now : Instant) :
    Stepped r (r.takeTick p now) := by
  unfold takeTick
  split
  · exact Stepped.refl r
  · rename_i q hq
    split
    · split
      · rename_i hready
        exact stepped_set hq rfl rfl rfl (Poller.follows_take q hready)
          (q.ticker.stopped_take now)
      · exact Stepped.refl r
    · exact Stepped.refl r

theorem stepped_holdSource (r : Registry) (p : Nat) : Stepped r (r.holdSource p) := by
  unfold holdSource
  split
  · exact Stepped.refl r
  · rename_i q hq
    split
    · rename_i s hphase _
      split
      · exact Stepped.refl r
      · have hleft : Phase.reading.left ≤ q.phase.left := by rw [hphase]; decide
        exact stepped_set hq rfl (List.length_set ..) (setPhase_pollers hq .reading)
          (Poller.follows_phase q hleft (by simp)) rfl
    · exact Stepped.refl r

theorem stepped_finishReading {r : Registry} {p : Nat} {q : Poller}
    (hq : r.pollers[p]? = some q) (hphase : q.phase = .reading) (kind : ReaderKind)
    (reader : Reader) (result : Except ReadError (List Row)) :
    Stepped r (r.finishReading p kind reader result) := by
  unfold finishReading
  rw [hq]
  cases result with
  | error e =>
    have hleft : Phase.waiting.left ≤ q.phase.left := by rw [hphase]; decide
    exact stepped_set hq rfl (List.length_set ..) (setPhase_pollers hq .waiting)
      (Poller.follows_phase q hleft (by simp)) rfl
  | ok rows =>
    have hleft : ∀ batch rest, (Phase.publishing batch rest).left ≤ q.phase.left := by
      intro batch rest
      rw [hphase]
      exact (by decide : 2 ≤ 3)
    exact stepped_set hq rfl (List.length_set ..) (setPhase_pollers hq _)
      (Poller.follows_phase q (hleft _ _) (by simp)) rfl

theorem stepped_exit (r : Registry) (p : Nat) : Stepped r (r.exit p) := by
  cases hq : r.pollers[p]? with
  | none =>
    have hsame : r.exit p = r := by
      show { r with pollers := r.pollers.modify p Poller.exit } = r
      rw [List.modify_eq_set_getElem?, hq]
      rfl
    rw [hsame]
    exact Stepped.refl r
  | some q =>
    have hset : (r.exit p).pollers = r.pollers.set p q.exit := by
      show r.pollers.modify p Poller.exit = _
      rw [List.modify_eq_set_getElem?, hq]
      rfl
    exact stepped_set hq rfl rfl hset (Poller.follows_exit q) (Poller.exit_stopped q)

/-! ## Changes -/

/-- A step that a registry can take. -/
inductive Change (r : Registry) : Registry → Prop
  | keep : Change r r
  | install (id channel : String) (reader : Reader) : Change r (r.install id channel reader)
  | installAll (loaded : List (StoredFeed × Reader)) : Change r (r.installAll loaded)
  | remove {r' : Registry} (id : String) (h : r.remove? id = some r') : Change r r'
  | start (id : String) (traced : Bool) (now : Instant) : Change r (r.start id traced now).1
  | stopAll : Change r r.stopAll
  | tick (p : Nat) (now : Instant) : Change r (r.takeTick p now)
  | hold (p : Nat) : Change r (r.holdSource p)
  | read {p : Nat} {q : Poller} (hq : r.pollers[p]? = some q) (hphase : q.phase = .reading)
      (kind : ReaderKind) (reader : Reader) (result : Except ReadError (List Row)) :
      Change r (r.finishReading p kind reader result)
  | publish {p : Nat} {q : Poller} {batch : Batch} {rest more : List (String × Message)}
      (hq : r.pollers[p]? = some q) (hphase : q.phase = .publishing batch rest) :
      Change r (r.setPhase p (.publishing batch more))
  | settle {p : Nat} {q : Poller} {batch : Batch} {rest : List (String × Message)}
      (hq : r.pollers[p]? = some q) (hphase : q.phase = .publishing batch rest) :
      Change r (r.setPhase p .waiting)
  | exit (p : Nat) : Change r (r.exit p)

/-- Every poller of the one registry is still in the other, at its number. -/
def Follows (r r' : Registry) : Prop :=
  ∀ (p : Nat) (q : Poller), r.pollers[p]? = some q →
    ∃ q' : Poller, r'.pollers[p]? = some q' ∧ q.Follows q'

theorem Follows.refl (r : Registry) : r.Follows r :=
  fun _ q hq => ⟨q, hq, Poller.Follows.refl q⟩

theorem Follows.trans {r r' r'' : Registry} (h : r.Follows r') (h' : r'.Follows r'') :
    r.Follows r'' := by
  intro p q hq
  obtain ⟨q', hq', hfollows⟩ := h p q hq
  obtain ⟨q'', hq'', hfollows'⟩ := h' p q' hq'
  exact ⟨q'', hq'', hfollows.trans hfollows'⟩

theorem Stepped.follows {r r' : Registry} (h : Stepped r r') : r.Follows r' := by
  intro p q hq
  obtain ⟨q', hq', hfollows, _⟩ := h.pollers p q hq
  exact ⟨q', hq', hfollows⟩

/-- A registry whose pollers are those of another, each mapped to one that follows it. -/
theorem follows_of_map {r r' : Registry} {g : Nat → Poller → Poller}
    (hg : ∀ p q, Poller.Follows q (g p q)) (h : ∀ p, r'.pollers[p]? = (r.pollers[p]?).map (g p)) :
    r.Follows r' := by
  intro p q hq
  refine ⟨g p q, ?_, hg p q⟩
  rw [h, hq, Option.map_some]

theorem follows_install (r : Registry) (id channel : String) (reader : Reader) :
    r.Follows (r.install id channel reader) :=
  follows_of_map (fun p q => Poller.follows_haltAt (r.poller? id) p q)
    (pollers_install r id channel reader)

theorem follows_installAll (loaded : List (StoredFeed × Reader)) (r : Registry) :
    r.Follows (r.installAll loaded) := by
  induction loaded generalizing r with
  | nil => exact Follows.refl r
  | cons e rest ih =>
    obtain ⟨f, reader⟩ := e
    exact (follows_install r f.id f.channel reader).trans (ih _)

theorem follows_stopAll (r : Registry) : r.Follows r.stopAll := by
  refine follows_of_map (fun p q => ?_) (pollers_stopAll r)
  split
  · exact Poller.follows_stop q
  · exact Poller.Follows.refl q

theorem follows_halt (r : Registry) (n : Option Nat) : r.Follows (r.halt n) :=
  follows_of_map (fun p q => Poller.follows_haltAt n p q) (pollers_halt r n)

theorem follows_start (r : Registry) (id : String) (traced : Bool) (now : Instant) :
    r.Follows (r.start id traced now).1 := by
  have h := started r id traced now
  generalize (r.start id traced now).1 = r' at h ⊢
  cases h with
  | unknown _ => exact Follows.refl r
  | beyond f _ => exact follows_halt r f.poller
  | fresh f ticker _ _ =>
    intro p q hq
    obtain ⟨q', hq', hfollows⟩ := follows_halt r f.poller p q hq
    have hlt : p < (r.halt f.poller).pollers.length := (List.getElem?_eq_some_iff.mp hq').1
    exact ⟨q', (List.getElem?_append_left hlt).trans hq', hfollows⟩

/-- After a change every poller stands at its number and follows the one that stood there. -/
theorem Change.follows {r r' : Registry} (h : Change r r') : r.Follows r' := by
  cases h with
  | keep => exact Follows.refl r
  | install id channel reader => exact follows_install r id channel reader
  | installAll loaded => exact follows_installAll loaded r
  | remove id h =>
    exact follows_of_map (fun p q => Poller.follows_haltAt (r.poller? id) p q) (pollers_remove h)
  | start id traced now => exact follows_start r id traced now
  | stopAll => exact follows_stopAll r
  | tick p now => exact (stepped_takeTick r p now).follows
  | hold p => exact (stepped_holdSource r p).follows
  | read hq hphase kind reader result =>
    exact (stepped_finishReading hq hphase kind reader result).follows
  | publish hq hphase =>
    exact (stepped_setPhase hq (by rw [hphase]; exact Nat.le_refl 2) (by simp)).follows
  | settle hq hphase =>
    exact (stepped_setPhase hq (by rw [hphase]; exact Nat.le_succ 1) (by simp)).follows
  | exit p => exact (stepped_exit r p).follows

end Registry

end TableFeed
