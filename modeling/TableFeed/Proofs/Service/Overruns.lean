import TableFeed.Proofs.Registry.Kept
import TableFeed.Proofs.Service.Provisioning
import TableFeed.Proofs.Timing.FirstTick

/-!
# Creations that the clock does not reach

A creation writes the store before it starts the poller. If the clock does not reach the first tick,
the call ends there, and the store lists a thing that can be started no more after a restart than
before.

* **`createThing_saves`** — behind its first two stages a creation is a writing and a start.
* **`createThing_clockRange_iff`** — the creations that end so: an accepted interval overruns the
  clock.
* **`first_tick_iff`** — all of it, for every number and every clock in its first half.
-/

namespace TableFeed

variable {π : Type}

namespace Reader

/-- Metadata is refused for what it says. -/
theorem ofMetadata_error {kind : ReaderKind} {value : Json} {e : Error}
    (h : ofMetadata kind value = .error e) : ∃ cause, e = .malformedMetadata ⟨cause, none⟩ := by
  obtain ⟨cause, -, hcause⟩ := error_of_mapError h
  exact ⟨cause, hcause.symm⟩

theorem Settled.interval {kind : ReaderKind} {r : Reader} (h : r.Settled kind) :
    r.interval.IsCanonical := by
  cases h with
  | file h => exact h.interval
  | sql h => exact h.interval

end Reader

namespace Adapter

variable {a : Adapter π} {metadata : String} {reader : Reader}

/-- A refusal is never about the clock. -/
theorem described_ne_clockRange : a.described metadata ≠ .error .clockRange := by
  intro h
  have hcases := a.described_cases metadata
  rw [h] at hcases
  cases hcases with
  | refused _ _ hmake =>
    obtain ⟨cause, hcause⟩ := Reader.ofMetadata_error hmake
    cases hcause

/-- The interval of a reader that metadata describes is a number of the format. -/
theorem interval_of_described (h : a.described metadata = .ok reader) :
    reader.interval.InFormat := by
  have hreader := reader?_of_described h "" ""
  unfold reader? at hreader
  split at hreader
  · cases hreader
  · exact (prepare_settled (toOption_eq_some.mp hreader)).interval.inFormat

/-- Behind its first two stages a creation writes the registry with the thing put in and starts it. -/
theorem createThing_saves (h : a.described metadata = .ok reader) (id channel : String) :
    ∃ b : Adapter π, a.createThing id channel metadata = b.saveAndSchedule id ∧
      b.registry = a.registry.install id channel reader ∧ b.now = a.now := by
  have hreader := reader?_of_described h id channel
  have halike := a.prepare_alike (Blank.trim metadata)
  have hregistry := a.prepare_registry (Blank.trim metadata)
  unfold reader? at hreader
  unfold createThing install
  split at hreader
  · cases hreader
  · rename_i hblank
    simp only [if_neg hblank]
    generalize a.prepare (Blank.trim metadata) = prepared at hreader halike hregistry ⊢
    obtain ⟨b, e | made⟩ := prepared
    · cases hreader
    · obtain rfl : made = reader := Option.some.inj hreader
      refine ⟨b.put id channel made, rfl, ?_, halike.now⟩
      simp only at hregistry
      show b.registry.install id channel made = _
      rw [hregistry]

/-- A writing and a start fail for the clock only if there is no first tick. -/
theorem saveAndSchedule_clockRange_iff {id : String} {f : Feed}
    (hf : a.registry.feed? id = some f) :
    (a.saveAndSchedule id).2 = some .clockRange ↔ Ticker.start? f.interval a.now = none := by
  have hsave := a.save_yields
  have hkept : a.save.1.registry.feed? id = some f := by rw [hsave.registry, hf]
  have hsaved : a.save.2 ≠ some .clockRange := by
    unfold save writeStore
    rcases a.surroundings.write a.path (Utf8.bytes a.registry.storeText) with ⟨s, _ | cause⟩ <;> simp
  unfold saveAndSchedule
  simp only
  generalize a.save = saved at hsave hkept hsaved ⊢
  obtain ⟨b, failure⟩ := saved
  simp only at hkept hsaved ⊢
  rw [← hsave.alike.now]
  unfold schedule
  cases hticker : Ticker.start? f.interval b.now with
  | none =>
    have hfails : (b.registry.start id false b.now).2 = some .clockRange := by
      simp [Registry.start, hkept, hticker]
    generalize b.registry.start id false b.now = started at hfails
    obtain ⟨r, failure⟩ := started
    obtain rfl : failure = _ := hfails
    simp
  | some ticker =>
    have hstarts : (b.registry.start id false b.now).2 = none := by
      simp [Registry.start, hkept, hticker]
    generalize b.registry.start id false b.now = started at hstarts
    obtain ⟨r, failure⟩ := started
    obtain rfl : failure = _ := hstarts
    simpa using hsaved

/-- A creation fails for the clock if its interval was accepted and overruns the clock. -/
theorem createThing_clockRange_iff (hnow : a.now < (Duration.ofSeconds (2 ^ 62)).nanos)
    (id channel metadata : String) :
    (a.createThing id channel metadata).2 = some .clockRange ↔
      ∃ reader, a.described metadata = .ok reader ∧ reader.interval.Overruns a.now := by
  cases hdescribed : a.described metadata with
  | error e =>
    rw [createThing_refused hdescribed id channel]
    refine iff_of_false (fun h => ?_) (by simp)
    exact described_ne_clockRange (hdescribed.trans (congrArg _ (Option.some.inj h)))
  | ok reader =>
    obtain ⟨b, hcreate, hregistry, hclock⟩ := createThing_saves hdescribed id channel
    have hfeed : b.registry.feed? id = some (a.registry.newFeed channel reader) := by
      rw [hregistry, Registry.feed?_install, if_pos rfl]
    rw [hcreate, saveAndSchedule_clockRange_iff hfeed, hclock]
    show Ticker.start? (.interval reader.interval) a.now = none ↔ _
    rw [Ticker.start?_eq_none_iff (interval_of_described hdescribed) hnow]
    simp

end Adapter

/-- **Which first ticks there are.** No interval is empty. Whatever word of 64 bits a number of seconds
is made of, a scheduler starts unless so many seconds are a duration that overruns the clock, for every
clock in its first half. A creation fails for the clock just if it accepts such an interval, and it has
written the store by then. -/
theorem first_tick_iff (a : Adapter π) (hnow : a.now < (Duration.ofSeconds (2 ^ 62)).nanos) :
    (∀ w : Nat, 0 < (Scheduler.ofSeconds (.ofBits w)).interval.nanos ∧
      ∀ s : Scheduler, s.interval = (Scheduler.ofSeconds (.ofBits w)).interval →
        (s.start? a.now = none ↔ (Binary64.ofBits w).Overruns a.now)) ∧
    (∀ id channel metadata, (a.createThing id channel metadata).2 = some .clockRange ↔
      ∃ reader, a.described metadata = .ok reader ∧ reader.interval.Overruns a.now) ∧
    (∀ id channel metadata reader, a.described metadata = .ok reader →
      (a.createThing id channel metadata).1.surroundings =
        (a.stores (a.registry.install id channel reader)).1) := by
  have hwrites : ∀ id channel metadata reader, a.described metadata = .ok reader →
      (a.createThing id channel metadata).1.surroundings =
        (a.stores (a.registry.install id channel reader)).1 := by
    intro id channel metadata reader h
    have hyields := Adapter.createThing_yields (Adapter.reader?_of_described h id channel)
    obtain ⟨-, -, hsurroundings, -⟩ := hyields
    dsimp only at hsurroundings
    exact hsurroundings
  refine ⟨fun w => ⟨Duration.nanos_interval_pos _, fun s hs => ?_⟩,
    fun id channel metadata => Adapter.createThing_clockRange_iff hnow id channel metadata, hwrites⟩
  have hkept : s.stop.interval = s.interval := by
    unfold Scheduler.stop
    split <;> rfl
  rw [← Ticker.start?_eq_none_iff (Binary64.inFormat_ofBits w) hnow]
  unfold Scheduler.start?
  rw [Option.map_eq_none_iff, hkept, hs]
  rfl

/-- A thing that is to be polled every `10 ^ 19` seconds. -/
def rarelyPolled : String := "\x7b\"filename\":\"a.csv\",\"interval\":1e19\x7d"

/-- So many seconds are a duration, there is no first tick, and the store is left with the thing. -/
theorem first_tick_missed :
    (Scheduler.ofSeconds (.ofBits 4891288408196988160)).interval = .ofSeconds (10 ^ 19) ∧
      ((Scheduler.ofSeconds (.ofBits 4891288408196988160)).start? 0).isNone = true ∧
      (unscheduled.createThing "t" "c" rarelyPolled).2.map Error.message =
        some "overflow when adding duration to instant" ∧
      ((unscheduled.createThing "t" "c" rarelyPolled).1.surroundings.files.readText
        unscheduled.path).toOption =
          some ("\x7b\"id\":\"t\",\"channel_id\":\"c\",\"metadata\":" ++
            "\x7b\"filename\":\"a.csv\",\"interval\":1e+19,\"header_pos\":0\x7d\x7d\n") := by
  refine ⟨by decide +kernel, by decide +kernel, by decide +kernel, by decide +kernel⟩

theorem first_tick_iff_rarely :
    (Scheduler.ofSeconds (.ofBits 4891288408196988160)).start? unscheduled.now = none ∧
      (unscheduled.createThing "t" "c" rarelyPolled).2 = some .clockRange := by
  have hoverruns : (Binary64.ofBits 4891288408196988160).Overruns unscheduled.now := by
    refine ⟨4882812500000000, 11, by decide +kernel, ?_, ?_⟩
    · norm_num [Binary64.magnitude]
    · have hclock : unscheduled.now = 0 := by decide
      rw [hclock]
      norm_num [Binary64.magnitude, Instant.limit, Duration.nanosPerSecond]
  have hdescribed : unscheduled.described rarelyPolled =
      .ok (.file { fileName := "a.csv", interval := .ofBits 4891288408196988160 }) :=
    toOption_eq_some.mp (by decide +kernel)
  have hticks := first_tick_iff unscheduled (by decide)
  exact ⟨((hticks.1 _).2 _ rfl).mpr hoverruns, (hticks.2.1 _ _ _).mpr ⟨_, hdescribed, hoverruns⟩⟩

end TableFeed
