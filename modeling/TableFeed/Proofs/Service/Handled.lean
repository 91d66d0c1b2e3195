import TableFeed.Proofs.Service.Standing
import TableFeed.Proofs.Source.Files

/-!
# Entries that were handled

The handling of an entry is determined by what the entry wishes: to install a thing, to remove one, or
nothing. Whether it succeeds, and how things stand afterwards, depends on little of the adapter.

* **`createThing_yields`**, **`removeThing_yields`** — what a call leaves, and when it succeeds.
* **`process_none_iff`** — the crux: when the handling of an entry succeeds.
* **`Handled`** — what it did then, with one case for each way to succeed.
* **`Handled.standing?`** — how things stand then: the thing of the entry as the entry says, all others
  as before.
* **`Able.again`** — what could be handled once can be handled again.
-/

namespace TableFeed

variable {π : Type}

/-! ## What an entry wishes -/

inductive Wish where
  | install (p : Provision)
  | remove (id : String)
  | nothing
  deriving DecidableEq, Repr

/-- What an entry wishes, unless it is malformed. -/
def Entry.wish? (e : Entry) : Option Wish :=
  match Event.decode e with
  | .ok (.thingCreate p) | .ok (.thingUpdate p) => some (.install p)
  | .ok (.thingRemove id) => some (.remove id)
  | .ok _ => some .nothing
  | .error (.foreignMetadata _) => some .nothing
  | .error _ => none

namespace Adapter

/-- The store after the things of a registry were written to it. -/
def stores (a : Adapter π) (r : Registry) : Surroundings × Option FileError :=
  a.surroundings.write a.path (Utf8.bytes r.storeText)

/-- The reader that a provision describes. -/
def reader? (a : Adapter π) (p : Provision) : Option Reader :=
  if isBlankMetadata (Blank.trim p.source) then none
  else (a.prepare (Blank.trim p.source)).2.toOption

/-- The adapters differ in their things, their log and what is around them at most. -/
structure Alike (a b : Adapter π) : Prop where
  kind : b.kind = a.kind
  access : b.access = a.access
  path : b.path = a.path
  now : b.now = a.now

/-- The handling of an entry can succeed. -/
def Able (a : Adapter π) (e : Entry) : Prop :=
  match e.wish? with
  | none => False
  | some .nothing => True
  | some (.remove id) => ∀ r, a.registry.remove? id = some r → (a.stores r).2 = none
  | some (.install p) => ∃ reader, a.reader? p = some reader ∧
      (Ticker.start? (.interval reader.interval) a.now).isSome = true ∧
      (a.stores (a.registry.install p.id p.channel reader)).2 = none

/-- What the handling of an entry did. -/
inductive Handled (a : Adapter π) (e : Entry) (b : Adapter π) : Prop
  | nothing (hwish : e.wish? = some .nothing) (hregistry : b.registry = a.registry)
      (hsurroundings : b.surroundings = a.surroundings)
  | missing (id : String) (hwish : e.wish? = some (.remove id))
      (hnone : a.registry.feed? id = none) (hregistry : b.registry = a.registry)
      (hsurroundings : b.surroundings = a.surroundings)
  | removed (id : String) (hwish : e.wish? = some (.remove id))
      (hremove : a.registry.remove? id = some b.registry)
      (hwrite : a.stores b.registry = (b.surroundings, none))
  | installed (p : Provision) (reader : Reader) (ticker : Ticker)
      (hwish : e.wish? = some (.install p)) (hreader : a.reader? p = some reader)
      (hticker : Ticker.start? (.interval reader.interval) a.now = some ticker)
      (hregistry : b.registry =
        ((a.registry.install p.id p.channel reader).start p.id false a.now).1)
      (hwrite : a.stores (a.registry.install p.id p.channel reader) = (b.surroundings, none))

variable {a b c : Adapter π}

theorem Alike.refl (a : Adapter π) : a.Alike a :=
  ⟨rfl, rfl, rfl, rfl⟩

theorem Alike.trans (h : a.Alike b) (h' : b.Alike c) : a.Alike c :=
  ⟨h'.kind.trans h.kind, h'.access.trans h.access, h'.path.trans h.path, h'.now.trans h.now⟩

theorem Alike.symm (h : a.Alike b) : b.Alike a :=
  ⟨h.kind.symm, h.access.symm, h.path.symm, h.now.symm⟩

theorem Alike.logged (h : a.Alike b) (log : List LogLine) : a.Alike { b with log } :=
  ⟨h.kind, h.access, h.path, h.now⟩

/-- Which reader is prepared depends on the kind of adapter and its access to shares. -/
theorem Alike.reader? (h : a.Alike b) (p : Provision) : b.reader? p = a.reader? p := by
  unfold Adapter.reader? prepare build
  rw [h.kind, h.access]
  split
  · rfl
  · split
    · rfl
    · split <;> rfl

/-! ## Calls -/

/-- What a call leaves, and when it succeeds. -/
structure Yields (a : Adapter π) (out : Adapter π × Option Error) (registry : Registry)
    (surroundings : Surroundings) (succeeds : Prop) : Prop where
  alike : a.Alike out.1
  registry : out.1.registry = registry
  surroundings : out.1.surroundings = surroundings
  succeeds : out.2 = none ↔ succeeds

theorem save_yields (a : Adapter π) :
    a.Yields a.save a.registry (a.stores a.registry).1 ((a.stores a.registry).2 = none) := by
  unfold save writeStore stores
  rcases a.surroundings.write a.path (Utf8.bytes a.registry.storeText) with ⟨s, _ | cause⟩
  · exact ⟨⟨rfl, rfl, rfl, rfl⟩, rfl, rfl, by simp⟩
  · exact ⟨⟨rfl, rfl, rfl, rfl⟩, rfl, rfl, by simp⟩

theorem schedule_yields {id : String} {f : Feed} (hf : a.registry.feed? id = some f)
    (traced : Bool) :
    a.Yields (a.schedule id traced) (a.registry.start id traced a.now).1 a.surroundings
      ((Ticker.start? f.interval a.now).isSome = true) := by
  rw [← Registry.start_failure hf traced]
  unfold schedule
  rcases a.registry.start id traced a.now with ⟨r, _ | e⟩
  · exact ⟨⟨rfl, rfl, rfl, rfl⟩, rfl, rfl, by simp⟩
  · exact ⟨⟨rfl, rfl, rfl, rfl⟩, rfl, rfl, by simp⟩

theorem saveAndSchedule_yields {id : String} {f : Feed} (hf : a.registry.feed? id = some f) :
    a.Yields (a.saveAndSchedule id) (a.registry.start id false a.now).1 (a.stores a.registry).1
      ((Ticker.start? f.interval a.now).isSome = true ∧ (a.stores a.registry).2 = none) := by
  have hsave := a.save_yields
  have hkept : a.save.1.registry.feed? id = some f := by rw [hsave.registry, hf]
  have hschedule := schedule_yields hkept false
  rw [hsave.registry, hsave.alike.now, hsave.surroundings] at hschedule
  unfold saveAndSchedule
  have hsucceeds := hschedule.succeeds
  simp only
  rcases hout : a.save.1.schedule id false with ⟨b, _ | e⟩
  · rw [hout] at hschedule hsucceeds
    refine ⟨hsave.alike.trans hschedule.alike, hschedule.registry, hschedule.surroundings, ?_⟩
    rw [← hsave.succeeds]
    exact ⟨fun h => ⟨hsucceeds.mp rfl, h⟩, fun h => h.2⟩
  · -- the store is written, and yet there is no first tick
    rw [hout] at hschedule hsucceeds
    refine ⟨hsave.alike.trans hschedule.alike, hschedule.registry, hschedule.surroundings, ?_⟩
    exact ⟨(fun h => by cases h), fun h => absurd (hsucceeds.mpr h.1) (by simp)⟩

theorem prepare_alike (a : Adapter π) (metadata : String) : a.Alike (a.prepare metadata).1 := by
  unfold prepare build
  split
  · exact Alike.refl a
  · split
    · exact Alike.refl a
    · exact ⟨rfl, rfl, rfl, rfl⟩

theorem createThing_none {p : Provision} (h : a.reader? p = none) :
    (a.createThing p.id p.channel p.source).2 ≠ none := by
  unfold reader? at h
  unfold createThing install
  by_cases hblank : isBlankMetadata (Blank.trim p.source) = true
  · simp [hblank]
  · rw [if_neg hblank] at h
    simp only [hblank, Bool.false_eq_true, if_false]
    generalize a.prepare (Blank.trim p.source) = prepared at h ⊢
    obtain ⟨b, e | reader⟩ := prepared
    · simp
    · cases h

/-- With a reader, a creation puts it in, writes the store and starts a poller. -/
theorem createThing_yields {p : Provision} {reader : Reader} (h : a.reader? p = some reader) :
    a.Yields (a.createThing p.id p.channel p.source)
      ((a.registry.install p.id p.channel reader).start p.id false a.now).1
      (a.stores (a.registry.install p.id p.channel reader)).1
      ((Ticker.start? (.interval reader.interval) a.now).isSome = true ∧
        (a.stores (a.registry.install p.id p.channel reader)).2 = none) := by
  have halike := a.prepare_alike (Blank.trim p.source)
  have hregistry := a.prepare_registry (Blank.trim p.source)
  have hsurroundings := (a.prepare_surroundings (Blank.trim p.source)).2
  unfold reader? at h
  unfold createThing install
  by_cases hblank : isBlankMetadata (Blank.trim p.source) = true
  · rw [if_pos hblank] at h
    cases h
  · rw [if_neg hblank] at h
    simp only [hblank, Bool.false_eq_true, if_false]
    generalize a.prepare (Blank.trim p.source) = prepared at h halike hregistry hsurroundings ⊢
    obtain ⟨b, e | made⟩ := prepared
    · cases h
    · -- preparing a reader leaves no trace but in the log, so all is as if the call began behind it
      obtain rfl : made = reader := Option.some.inj h
      simp only at halike hregistry hsurroundings ⊢
      have hput : (b.put p.id p.channel made).registry =
          a.registry.install p.id p.channel made := by
        rw [← hregistry]
        rfl
      have hfeed : (b.put p.id p.channel made).registry.feed? p.id =
          some (a.registry.newFeed p.channel made) := by
        rw [hput, Registry.feed?_install, if_pos rfl]
      have hyields := saveAndSchedule_yields hfeed
      have hstores : ∀ r, (b.put p.id p.channel made).stores r = a.stores r := by
        intro r
        show b.surroundings.write b.path _ = _
        rw [hsurroundings, halike.path]
        rfl
      have hnow : (b.put p.id p.channel made).now = a.now := halike.now
      rw [hstores, hput, hnow] at hyields
      have hputAlike : b.Alike (b.put p.id p.channel made) := ⟨rfl, rfl, rfl, rfl⟩
      exact ⟨(halike.trans hputAlike).trans hyields.alike, hyields.registry, hyields.surroundings,
        hyields.succeeds⟩

theorem removeThing_none {id : String} (h : a.registry.feed? id = none) :
    a.removeThing id = (a, some (.readerNotFound id (.notFound id))) := by
  simp [removeThing, remove, Registry.remove?, h]

/-- The removal of a thing that is there takes it out and writes the store. -/
theorem removeThing_yields {id : String} {r : Registry} (h : a.registry.remove? id = some r) :
    a.Yields (a.removeThing id) r (a.stores r).1 ((a.stores r).2 = none) := by
  obtain ⟨log, hremove⟩ : ∃ log, a.remove id = ({ a with registry := r, log }, none) := by
    simp only [remove, h, note]
    exact ⟨_, rfl⟩
  have hsave := ({ a with registry := r, log } : Adapter π).save_yields
  unfold removeThing
  rw [hremove]
  simp only
  generalize ({ a with registry := r, log } : Adapter π).save = out at hsave ⊢
  obtain ⟨halike, hregistry, hsurroundings, hsucceeds⟩ := hsave
  have hremoved : a.Alike { a with registry := r, log } := ⟨rfl, rfl, rfl, rfl⟩
  obtain ⟨b, _ | e⟩ := out
  · exact ⟨(hremoved.trans halike).logged _, hregistry, hsurroundings, hsucceeds⟩
  · exact ⟨hremoved.trans halike, hregistry, hsurroundings, hsucceeds⟩

/-! ## Entries -/

variable [Publisher π]

/-- An entry that wishes nothing changes nothing but the log. -/
theorem process_nothing {e : Entry} (h : e.wish? = some .nothing) (traced : Bool) (a : Adapter π) :
    ∃ log, (serviceFor traced).process e a = ({ a with log }, none) := by
  unfold Entry.wish? at h
  unfold Service.process
  cases hdecode : Event.decode e with
  | error cause =>
    rw [hdecode] at h
    cases cause with
    | foreignMetadata domain =>
      simp only [serviceFor_note]
      exact ⟨_, rfl⟩
    | _ => cases h
  | ok event =>
    rw [hdecode] at h
    cases event with
    | channelRemove id =>
      obtain ⟨log, heq⟩ := serviceFor_removeChannel traced a id
      exact ⟨log, heq⟩
    | ignored operation => exact ⟨a.log, rfl⟩
    | _ => cases h

theorem process_malformed {e : Entry} (h : e.wish? = none) (traced : Bool) (a : Adapter π) :
    ((serviceFor traced).process e a).2 ≠ none := by
  unfold Entry.wish? at h
  unfold Service.process
  cases hdecode : Event.decode e with
  | error cause =>
    rw [hdecode] at h
    cases cause with
    | foreignMetadata domain => cases h
    | _ => simp
  | ok event =>
    rw [hdecode] at h
    cases event <;> cases h

/-- An entry that wishes a thing does what its creation does, but for the log. -/
theorem process_install {e : Entry} {p : Provision} (h : e.wish? = some (.install p))
    (traced : Bool) (a : Adapter π) : ∃ log, (serviceFor traced).process e a =
      ({ (a.createThing p.id p.channel p.source).1 with log },
        (a.createThing p.id p.channel p.source).2) := by
  unfold Entry.wish? at h
  unfold Service.process
  cases hdecode : Event.decode e with
  | error cause =>
    rw [hdecode] at h
    cases cause <;> cases h
  | ok event =>
    rw [hdecode] at h
    cases event with
    | thingCreate o | thingUpdate o =>
      obtain rfl : o = p := by simpa using h
      exact serviceFor_createThing traced a o.id o.channel o.source
    | _ => cases h

/-- An entry that wishes a thing gone does what its removal does, but for the log, and does not fail
for want of the thing. -/
theorem process_remove {e : Entry} {id : String} (h : e.wish? = some (.remove id))
    (traced : Bool) (a : Adapter π) :
    ∃ log, ((serviceFor traced).process e a).1 = { (a.removeThing id).1 with log } ∧
      (((serviceFor traced).process e a).2 = none ↔
        (a.removeThing id).2 = none ∨ a.registry.feed? id = none) := by
  obtain ⟨log, heq⟩ := serviceFor_removeThing traced a id
  have hnot := (a.removeThing_deeds id).2.2
  have hnone : a.registry.feed? id = none → a.removeThing id = _ := removeThing_none
  have hdecode : Event.decode e = .ok (.thingRemove id) := by
    unfold Entry.wish? at h
    cases hdecode : Event.decode e with
    | error cause =>
      rw [hdecode] at h
      cases cause <;> cases h
    | ok event =>
      rw [hdecode] at h
      cases event with
      | thingRemove i => rw [show i = id by simpa using h]
      | _ => cases h
  unfold Service.process
  simp only [hdecode, Service.handle, heq]
  generalize a.removeThing id = out at hnot hnone ⊢
  obtain ⟨b, _ | cause⟩ := out
  · exact ⟨log, rfl, by simp⟩
  · cases hfound : cause.isNotFound with
    | true =>
      have hgone := hnot cause rfl hfound
      simp only [hfound, if_true, serviceFor_note]
      exact ⟨_, rfl, by simp [hgone]⟩
    | false =>
      -- a thing that is not there would have made a failure of the other kind
      have hthere : a.registry.feed? id ≠ none := by
        intro hgone
        have hcause := Option.some.inj (Prod.mk.inj (hnone hgone)).2
        rw [hcause] at hfound
        cases hfound
      simp only [hfound, Bool.false_eq_true, if_false]
      exact ⟨log, rfl, by simp [hthere]⟩

/-- The handling of an entry succeeds exactly if it is able to. -/
theorem process_none_iff (e : Entry) (traced : Bool) (a : Adapter π) :
    ((serviceFor traced).process e a).2 = none ↔ a.Able e := by
  unfold Able
  cases hwish : e.wish? with
  | none => exact iff_of_false (process_malformed hwish traced a) id
  | some wish =>
    cases wish with
    | nothing =>
      obtain ⟨log, heq⟩ := process_nothing hwish traced a
      rw [heq]
      exact iff_of_true rfl trivial
    | install p =>
      obtain ⟨log, heq⟩ := process_install hwish traced a
      rw [heq]
      dsimp only
      cases hreader : a.reader? p with
      | none => simp [createThing_none hreader]
      | some reader => simp [(createThing_yields hreader).succeeds]
    | remove id =>
      obtain ⟨log, -, hnone⟩ := process_remove hwish traced a
      rw [hnone]
      show _ ↔ ∀ r, a.registry.remove? id = some r → _
      cases hremove : a.registry.remove? id with
      | none =>
        have hgone : a.registry.feed? id = none := Option.map_eq_none_iff.mp hremove
        simp [hgone]
      | some r =>
        have hthere : a.registry.feed? id ≠ none := by
          intro hgone
          simp [Registry.remove?, hgone] at hremove
        simp [hthere, (removeThing_yields hremove).succeeds]

/-- What a handling that succeeded did. -/
theorem handled_of_process {e : Entry} {traced : Bool}
    (h : ((serviceFor traced).process e a).2 = none) :
    a.Alike ((serviceFor traced).process e a).1 ∧
      a.Handled e ((serviceFor traced).process e a).1 := by
  have hable := (process_none_iff e traced a).mp h
  unfold Able at hable
  cases hwish : e.wish? with
  | none => exact absurd h (process_malformed hwish traced a)
  | some wish =>
    rw [hwish] at hable
    cases wish with
    | nothing =>
      obtain ⟨log, heq⟩ := process_nothing hwish traced a
      rw [heq]
      exact ⟨(Alike.refl a).logged log, .nothing hwish rfl rfl⟩
    | install p =>
      obtain ⟨reader, hreader, hstarts, hwrites⟩ := hable
      obtain ⟨ticker, hticker⟩ := Option.isSome_iff_exists.mp hstarts
      obtain ⟨log, heq⟩ := process_install hwish traced a
      have hyields := createThing_yields hreader
      rw [heq]
      generalize a.createThing p.id p.channel p.source = out at hyields ⊢
      refine ⟨hyields.alike.logged log,
        .installed p reader ticker hwish hreader hticker hyields.registry ?_⟩
      exact Prod.ext hyields.surroundings.symm hwrites
    | remove id =>
      obtain ⟨log, heq, -⟩ := process_remove hwish traced a
      rw [heq]
      cases hremove : a.registry.remove? id with
      | none =>
        have hgone : a.registry.feed? id = none := Option.map_eq_none_iff.mp hremove
        rw [removeThing_none hgone]
        exact ⟨(Alike.refl a).logged log, .missing id hwish hgone rfl rfl⟩
      | some r =>
        have hyields := removeThing_yields hremove
        generalize a.removeThing id = out at hyields ⊢
        refine ⟨hyields.alike.logged log, .removed id hwish ?_ ?_⟩
        · rw [hremove]
          exact congrArg some hyields.registry.symm
        · show a.stores out.1.registry = _
          rw [hyields.registry]
          exact Prod.ext hyields.surroundings.symm (hable r hremove)

end Adapter

/-! ## What a success leaves -/

namespace Adapter

/-- How an entry makes a thing stand, if it makes anything of it. -/
def makes? (a : Adapter π) (id : String) (e : Entry) : Option (Option Registry.Standing) :=
  match e.wish? with
  | some (.install p) =>
    if p.id = id then
      some ((a.reader? p).map fun reader => ⟨⟨id, p.channel, reader.metadata⟩, true⟩)
    else none
  | some (.remove i) => if i = id then some none else none
  | _ => none

/-- The store has what the registry wants kept, and can be written again. -/
structure Synced (a : Adapter π) : Prop where
  saved : a.surroundings.files.read a.path = .ok (Utf8.bytes a.registry.storeText)
  takes : ∀ content, ∃ files, a.surroundings.files.write a.path content = .ok files

variable {a b : Adapter π} {e : Entry}

theorem Alike.makes? (h : a.Alike b) (id : String) (e : Entry) : b.makes? id e = a.makes? id e := by
  simp only [Adapter.makes?, h.reader?]

/-- A handled entry leaves its thing as it says, and all others as they were. -/
theorem Handled.standing? (h : a.Handled e b) (hwired : a.registry.Wired) (id : String) :
    b.registry.standing? id = (a.makes? id e).getD (a.registry.standing? id) := by
  cases h with
  | nothing hwish hregistry _ => simp only [Adapter.makes?, hwish, hregistry, Option.getD_none]
  | missing i hwish hnone hregistry _ =>
    simp only [Adapter.makes?, hwish, hregistry]
    split
    · rename_i hi
      rw [Option.getD_some, ← hi, Registry.standing?_eq_none.mpr hnone]
    · rfl
  | removed i hwish hremove _ =>
    rw [Registry.standing?_removed hremove]
    simp only [Adapter.makes?, hwish, eq_comm (a := id)]
    split <;> rfl
  | installed p reader ticker hwish hreader hticker hregistry _ =>
    rw [hregistry, Registry.standing?_started hwired hticker]
    simp only [Adapter.makes?, hwish, hreader, eq_comm (a := id)]
    split
    · rename_i hp
      rw [hp]
      rfl
    · rfl

theorem Handled.wired (h : a.Handled e b) (hwired : a.registry.Wired) : b.registry.Wired := by
  cases h with
  | nothing _ hregistry _ => rwa [hregistry]
  | missing _ _ _ hregistry _ => rwa [hregistry]
  | removed id _ hremove _ => exact hwired.change (.remove id hremove)
  | installed p reader _ _ _ _ hregistry _ =>
    rw [hregistry]
    exact (hwired.change (.install p.id p.channel reader)).change (.start p.id false a.now)

/-- A writing that succeeded leaves the store with what was to be kept. -/
theorem synced_of_stores (halike : a.Alike b) {r : Registry}
    (hwrite : a.stores r = (b.surroundings, none)) (hstored : b.registry.stored = r.stored) :
    b.Synced where
  saved := by
    have htext : b.registry.storeText = r.storeText := congrArg Store.text hstored
    rw [htext, halike.path]
    exact Surroundings.read_write hwrite
  takes := by
    rw [halike.path]
    exact Surroundings.takes_write hwrite

/-- Once the store has what is to be kept, it still does after any handled entry. -/
theorem Handled.synced (h : a.Handled e b) (halike : a.Alike b) (hwired : a.registry.Wired)
    (hbefore : a.Synced ∨ ∃ p, e.wish? = some (.install p)) : b.Synced := by
  have hkeeps : (∀ p, e.wish? ≠ some (.install p)) → b.registry = a.registry →
      b.surroundings = a.surroundings → b.Synced := by
    intro hno hregistry hsurroundings
    obtain ⟨hsaved, htakes⟩ := hbefore.resolve_right fun ⟨p, hp⟩ => hno p hp
    exact ⟨by rw [hregistry, hsurroundings, halike.path, hsaved],
      by rw [hsurroundings, halike.path]; exact htakes⟩
  cases h with
  | nothing hwish hregistry hsurroundings =>
    exact hkeeps (by simp [hwish]) hregistry hsurroundings
  | missing i hwish _ hregistry hsurroundings =>
    exact hkeeps (by simp [hwish]) hregistry hsurroundings
  | removed id _ _ hwrite => exact synced_of_stores halike hwrite rfl
  | installed p reader _ _ _ _ hregistry hwrite =>
    apply synced_of_stores halike hwrite
    rw [hregistry]
    exact Registry.stored_start (hwired.change (.install p.id p.channel reader)) p.id false a.now

/-- A store that any writing succeeds in is still one after a handled entry. -/
theorem Handled.writable (h : a.Handled e b) (hwritable : a.surroundings.Writable a.path) :
    b.surroundings.Writable a.path := by
  cases h with
  | nothing _ _ hsurroundings => rwa [hsurroundings]
  | missing _ _ _ _ hsurroundings => rwa [hsurroundings]
  | removed _ _ _ hwrite => exact hwritable.kept hwrite
  | installed _ _ _ _ _ _ _ hwrite => exact hwritable.kept hwrite

/-- What could be handled once can be handled again, as long as the store can be written. -/
theorem Able.again (h : a.Able e) (halike : a.Alike b)
    (hwritable : b.surroundings.Writable b.path) : b.Able e := by
  unfold Able at h ⊢
  cases hwish : e.wish? with
  | none => rwa [hwish] at h
  | some wish =>
    rw [hwish] at h
    cases wish with
    | nothing => trivial
    | remove id => exact fun r _ => hwritable.write _
    | install p =>
      obtain ⟨reader, hreader, hstarts, -⟩ := h
      exact ⟨reader, (halike.reader? p).trans hreader, by rwa [halike.now], hwritable.write _⟩

end Adapter

end TableFeed
