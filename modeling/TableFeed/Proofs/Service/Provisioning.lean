import TableFeed.Proofs.Json.NumberText
import TableFeed.Proofs.Registry.Halting
import TableFeed.Proofs.Service.Handled
import TableFeed.Proofs.Timing.FirstTick
import TableFeed.Publishing.LogPublisher

/-!
# Provisioning is all or nothing

A creation has four stages: the metadata is looked at, a reader is made and put in, the store is written,
and a poller is started. The first two may refuse, and then nothing has been done. Behind them nothing is
taken back: a store that cannot be written fails the call, but the thing is there and is polled, just as if
it had been written. Removals are the same with one stage to refuse.

* **`Adapter.described`** — what the first two stages make of a metadata text; `described_cases` gives
  the reason for it.
* **`Registry.Provisioned`**, **`Registry.Withdrawn`** — all that the registry is after a call that was
  not refused.
* **`createThing_refused`**, **`createThing_provisions`**, **`removeThing_withdraws`** — the three ways
  that calls end.
* **`provisioned_or_untouched`** — all of it, for every state that calls and pollers lead to.
-/

namespace TableFeed

variable {π : Type}

/-! ## Readers from metadata -/

namespace Adapter

/-- The reader that a creation with some metadata puts in, or why it is refused. -/
def described (a : Adapter π) (metadata : String) : Except Error Reader :=
  let text := Blank.trim metadata
  if text = "" ∨ text = "null" then .error .malformedIdentity
  else
    match Json.parse text with
    | .error cause => .error (.malformedMetadata cause)
    | .ok value => (Reader.ofMetadata a.kind value).map fun r => (r.prepare a.access).1

theorem isBlankMetadata_iff (text : String) :
    isBlankMetadata text = true ↔ text = "" ∨ text = "null" := by
  unfold isBlankMetadata
  rw [Bool.or_eq_true, String.isEmpty_iff, decide_eq_true_iff]

/-- What becomes of a metadata text, with the reason for it. -/
inductive Described (a : Adapter π) (metadata : String) : Except Error Reader → Prop
  | blank (hblank : isBlankMetadata (Blank.trim metadata) = true) :
    Described a metadata (.error .malformedIdentity)
  | malformed {cause} (hset : isBlankMetadata (Blank.trim metadata) = false)
    (hparse : Json.parse (Blank.trim metadata) = .error cause) :
    Described a metadata (.error (.malformedMetadata cause))
  | refused {value e} (hset : isBlankMetadata (Blank.trim metadata) = false)
    (hparse : Json.parse (Blank.trim metadata) = .ok value)
    (hmake : Reader.ofMetadata a.kind value = .error e) : Described a metadata (.error e)
  | made {value r} (hset : isBlankMetadata (Blank.trim metadata) = false)
    (hparse : Json.parse (Blank.trim metadata) = .ok value)
    (hmake : Reader.ofMetadata a.kind value = .ok r) :
    Described a metadata (.ok (r.prepare a.access).1)

theorem described_cases (a : Adapter π) (metadata : String) :
    a.Described metadata (a.described metadata) := by
  unfold described
  by_cases hblank : isBlankMetadata (Blank.trim metadata) = true
  · rw [if_pos ((isBlankMetadata_iff _).mp hblank)]
    exact .blank hblank
  · have hset := Bool.eq_false_iff.mpr hblank
    rw [if_neg fun hor => hblank ((isBlankMetadata_iff _).mpr hor)]
    cases hparse : Json.parse (Blank.trim metadata) with
    | error cause => exact .malformed hset hparse
    | ok value =>
      dsimp only
      cases hmake : Reader.ofMetadata a.kind value with
      | error e => exact .refused hset hparse hmake
      | ok r => exact .made hset hparse hmake

/-- Metadata that describes no reader of the kind leaves the adapter as it is. -/
theorem build_refused {a : Adapter π} {value : Json} {e : Error}
    (h : Reader.ofMetadata a.kind value = .error e) : a.build value = (a, .error e) := by
  unfold build
  rw [h]

theorem build_made {a : Adapter π} {value : Json} {r : Reader}
    (h : Reader.ofMetadata a.kind value = .ok r) :
    (a.build value).2 = .ok (r.prepare a.access).1 := by
  unfold build
  rw [h]

/-- A creation is refused by its first two stages and changes nothing. -/
theorem createThing_refused {a : Adapter π} {metadata : String} {e : Error}
    (h : a.described metadata = .error e) (id channel : String) :
    a.createThing id channel metadata = (a, some e) := by
  have hcases := a.described_cases metadata
  rw [h] at hcases
  unfold createThing install prepare
  cases hcases with
  | blank hblank => simp [hblank]
  | malformed hset hparse => simp [hset, hparse]
  | refused hset hparse hmake => simp [hset, hparse, build_refused hmake]

/-- A creation that is not refused goes on with the reader. -/
theorem reader?_of_described {a : Adapter π} {metadata : String} {reader : Reader}
    (h : a.described metadata = .ok reader) (id channel : String) :
    a.reader? ⟨id, channel, metadata⟩ = some reader := by
  have hcases := a.described_cases metadata
  rw [h] at hcases
  unfold reader? prepare
  cases hcases with
  | made hset hparse hmake =>
    simp only [hset, hparse, Bool.false_eq_true, if_false, build_made hmake]
    rfl

end Adapter

/-! ## What a call leaves -/

namespace Registry

/-- One registry is the other with a thing put in and its poller started at a moment. Every poller that
the thing had is told to stop, and whatever belongs to another thing is as it was. -/
structure Provisioned (r : Registry) (id channel : String) (reader : Reader) (now : Instant)
    (r' : Registry) : Prop where
  feeds : ∀ i, r'.feed? i =
    if i = id then
      some { channel, source := r.sources.length, interval := .interval reader.interval,
             poller := some r.pollers.length }
    else r.feed? i
  sources : r'.sources = r.sources ++ [{ reader, snapshot := reader.metadata }]
  pollers : r'.pollers = halted [id] r.pollers ++
    [{ thing := id, channel, source := r.sources.length, traced := false,
       ticker := { interval := .interval reader.interval,
                   due := now + (Duration.interval reader.interval).nanos } }]
  /-- Of all pollers of the thing the new one alone runs. -/
  runs : ∀ (p : Nat) (q : Poller), r'.pollers[p]? = some q → q.thing = id →
    (q.ticker.stopped = false ↔ p = r.pollers.length)

/-- One registry is the other without a thing. -/
structure Withdrawn (r : Registry) (id : String) (r' : Registry) : Prop where
  feeds : ∀ i, r'.feed? i = if i = id then none else r.feed? i
  sources : r'.sources = r.sources
  pollers : r'.pollers = halted [id] r.pollers
  /-- No poller of the thing runs. -/
  runs : ∀ q ∈ r'.pollers, q.thing = id → q.ticker.stopped = true

variable {r r' : Registry}

theorem Wired.provisioned (hw : Wired r) (id channel : String) {reader : Reader} {now : Instant}
    (hreached : now + (Duration.interval reader.interval).nanos < Instant.limit) :
    r.Provisioned id channel reader now
      ((r.install id channel reader).start id false now).1 := by
  have hnew : (r.install id channel reader).feed? id = some (r.newFeed channel reader) := by
    rw [feed?_install, if_pos rfl]
  have hticker : Ticker.start? (r.newFeed channel reader).interval now = some _ :=
    Ticker.start?_of_lt hreached
  have hinstalled := pollers_installed hw id channel reader
  have hpollers := pollers_started (hw.install id channel reader) hnew false hticker
  -- the pollers of the thing were all told to stop by the installation
  rw [hinstalled, halted_halted] at hpollers
  have hagain : halted ([id] ++ [id]) r.pollers = halted [id] r.pollers := by
    unfold halted Poller.haltOf
    simp only [List.mem_append, or_self]
  rw [hagain] at hpollers
  refine ⟨fun i => ?_, ?_, hpollers, fun p q hq hthing => ?_⟩
  · rw [feed?_started hnew false hticker, feed?_install, hinstalled, length_halted]
    split <;> rfl
  · rw [sources_start, sources_install]
  · rw [hpollers] at hq
    rcases Nat.lt_or_ge p r.pollers.length with hlt | hge
    · rw [List.getElem?_append_left (by rwa [length_halted])] at hq
      refine iff_of_false (fun hrun => ?_) (Nat.ne_of_lt hlt)
      exact thing_of_halted (List.mem_of_getElem? hq) hrun (List.mem_singleton.mpr hthing)
    · rw [List.getElem?_append_right (by rwa [length_halted])] at hq
      obtain ⟨hlt, rfl⟩ := List.getElem?_eq_some_iff.mp hq
      rw [length_halted, List.length_singleton] at hlt
      refine iff_of_true ?_ (by omega)
      simp only [List.getElem_singleton]

theorem Wired.withdrawn (hw : Wired r) {id : String} (h : r.remove? id = some r') :
    r.Withdrawn id r' where
  feeds := feed?_remove h
  sources := sources_remove h
  pollers := pollers_removed hw h
  runs q hq hthing := by
    rw [pollers_removed hw h] at hq
    by_contra hrun
    exact thing_of_halted hq (Bool.eq_false_iff.mpr hrun) (List.mem_singleton.mpr hthing)

end Registry

namespace Adapter

/-- A call wrote the registry that it left to the store, and it succeeds if the writing does. -/
structure Writes (a : Adapter π) (out : Adapter π × Option Error) : Prop where
  surroundings : out.1.surroundings = (a.stores out.1.registry).1
  succeeds : out.2 = none ↔ (a.stores out.1.registry).2 = none

variable {a : Adapter π}

/-- A creation that is not refused puts its thing in and starts it, whether the store can be written or
not. -/
theorem createThing_provisions (hw : a.registry.Wired) {metadata : String} {reader : Reader}
    (hdescribed : a.described metadata = .ok reader) (id channel : String)
    (hreached : a.now + (Duration.interval reader.interval).nanos < Instant.limit) :
    a.registry.Provisioned id channel reader a.now
        (a.createThing id channel metadata).1.registry ∧
      a.Writes (a.createThing id channel metadata) := by
  have hyields := createThing_yields (reader?_of_described hdescribed id channel)
  obtain ⟨-, hregistry, hsurroundings, hsucceeds⟩ := hyields
  dsimp only at hregistry hsurroundings hsucceeds
  have hticker := Ticker.start?_of_lt hreached
  -- starting the poller leaves what is written
  have hstores : a.stores (a.createThing id channel metadata).1.registry =
      a.stores (a.registry.install id channel reader) := by
    have hstored := Registry.stored_start (hw.install id channel reader) id false a.now
    rw [hregistry]
    unfold stores Registry.storeText
    rw [hstored]
  refine ⟨?_, ?_, ?_⟩
  · rw [hregistry]
    exact hw.provisioned id channel hreached
  · rw [hstores]
    exact hsurroundings
  · rw [hstores, hsucceeds, hticker]
    exact and_iff_right rfl

/-- A removal of a thing that is there takes it out, whether the store can be written or not. -/
theorem removeThing_withdraws (hw : a.registry.Wired) {id : String} {f : Feed}
    (hf : a.registry.feed? id = some f) :
    a.registry.Withdrawn id (a.removeThing id).1.registry ∧ a.Writes (a.removeThing id) := by
  obtain ⟨r, hr⟩ : ∃ r, a.registry.remove? id = some r := ⟨_, by rw [Registry.remove?, hf]; rfl⟩
  obtain ⟨-, hregistry, hsurroundings, hsucceeds⟩ := removeThing_yields hr
  refine ⟨?_, ?_, ?_⟩
  · rw [hregistry]
    exact hw.withdrawn hr
  · rw [hregistry]
    exact hsurroundings
  · rw [hregistry]
    exact hsucceeds

end Adapter

/-- **Provisioning is all or nothing.** In any state that calls and pollers lead to, a creation whose
metadata is blank, `null`, no JSON or no description of a reader changes nothing. Any other creation
leaves the thing put in and polled, and all other things and pollers as they were; the clock has to reach
the first tick of the poller for that, so its reading and the interval are below `2 ^ 62` seconds. A
removal changes nothing if there is no such thing, and else it leaves the registry without it. Both write
the store behind that, and succeed if the writing does. -/
theorem provisioned_or_untouched [Publisher π] (start : Adapter π) (history : List (Move π))
    {a : Adapter π} (hreached : (Machine.run history (Machine.begin start)).adapter = a)
    (id channel metadata : String) :
    (∀ e, a.described metadata = .error e → a.createThing id channel metadata = (a, some e)) ∧
    (∀ reader, a.described metadata = .ok reader →
      (Duration.interval reader.interval).nanos < (Duration.ofSeconds (2 ^ 62)).nanos →
      a.now < (Duration.ofSeconds (2 ^ 62)).nanos →
      a.registry.Provisioned id channel reader a.now
          (a.createThing id channel metadata).1.registry ∧
        a.Writes (a.createThing id channel metadata)) ∧
    (a.registry.feed? id = none →
      ∃ e, a.removeThing id = (a, some e) ∧ e.isNotFound = true) ∧
    (∀ f, a.registry.feed? id = some f →
      a.registry.Withdrawn id (a.removeThing id).1.registry ∧ a.Writes (a.removeThing id)) := by
  have hw : a.registry.Wired := hreached ▸ Machine.wired_reached start history
  refine ⟨fun e he => a.createThing_refused he id channel, fun reader hreader hinterval hclock => ?_,
    fun hnone => ⟨_, Adapter.removeThing_none hnone, rfl⟩,
    fun f hf => Adapter.removeThing_withdraws hw hf⟩
  exact Adapter.createThing_provisions hw hreader id channel (Instant.add_lt_limit hclock hinterval)

/-- A store that will not be written. -/
def unwritable : Surroundings where
  faults := [some (.opening .denied)]

/-- A service at its start. -/
def unscheduled : Adapter LogPublisher := { publisher := {} }

/-- Two things that are polled. -/
def polledThings : List (Move LogPublisher) :=
  [.ask (.create "t" "c" "\x7b\"filename\":\"a.csv\"\x7d"), .advance 0, .advance 0,
    .ask (.schedule "t" false), .advance 0,
    .ask (.create "u" "c" "\x7b\"filename\":\"b.csv\"\x7d"), .advance 0, .advance 0,
    .ask (.schedule "u" false), .advance 0, .outside .zero unwritable unscheduled.publisher]

def polled : Adapter LogPublisher :=
  (Machine.run polledThings (Machine.begin unscheduled)).adapter

/-- A thing that is polled is made to read another file, and the store is not written. -/
theorem provisioned_or_untouched_unwritable :
    polled.registry.ids = ["t", "u"] ∧
      polled.registry.Provisioned "t" "d"
        (.file { fileName := "c.csv", interval := .ofInt 60 }) polled.now
        (polled.createThing "t" "d" "\x7b\"filename\":\"c.csv\"\x7d").1.registry ∧
      (polled.createThing "t" "d" "\x7b\"filename\":\"c.csv\"\x7d").2 ≠ none ∧
      polled.registry.Withdrawn "u" (polled.removeThing "u").1.registry ∧
      (polled.removeThing "u").2 ≠ none := by
  have hreached : (Machine.run polledThings (Machine.begin unscheduled)).adapter = polled := by
    rw [polled]
  have hclock : polled.now < (Duration.ofSeconds (2 ^ 62)).nanos := by decide +kernel
  have hdescribed : polled.described "\x7b\"filename\":\"c.csv\"\x7d" =
      .ok (.file { fileName := "c.csv", interval := .ofInt 60 }) :=
    toOption_eq_some.mp (by decide +kernel)
  have hids : polled.registry.ids = ["t", "u"] := by decide +kernel
  obtain ⟨f, hf⟩ : ∃ f, polled.registry.feed? "u" = some f :=
    Option.isSome_iff_exists.mp (by decide +kernel)
  have hcreation := provisioned_or_untouched _ _ hreached "t" "d"
    "\x7b\"filename\":\"c.csv\"\x7d"
  have hremoval := provisioned_or_untouched _ _ hreached "u" "" ""
  obtain ⟨hprovisioned, hwrites⟩ := hcreation.2.1 _ hdescribed (by decide +kernel) hclock
  obtain ⟨hwithdrawn, hwritesBehind⟩ := hremoval.2.2.2 f hf
  refine ⟨hids, hprovisioned, fun hnone => ?_, hwithdrawn, fun hnone => ?_⟩
  · exact absurd (hwrites.succeeds.mp hnone) (by decide +kernel)
  · exact absurd (hwritesBehind.succeeds.mp hnone) (by decide +kernel)

end TableFeed
