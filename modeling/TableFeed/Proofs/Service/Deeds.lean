import TableFeed.Events.Delivery
import TableFeed.Proofs.Registry.Interleaving

/-!
# What the handling of an entry does to things and to the store

An entry that provisions changes the registry by at most one thing and then writes the store. Its
`Adapter.deeds` are these two, in order: the thing that was installed or removed, and whether the
writing that followed succeeded. Everything else that the adapter does meanwhile, its log, its mounts
and its pollers, leaves things and store alone.

* **`createThing_deeds`**, **`removeThing_deeds`** — what a call does, and that it succeeds only with a
  writing that succeeded.
* **`process_deeds`** — the crux: the deeds of an entry are what processing it does, no more and no
  less. If it does not fail it has written the store, unless it found nothing to remove or the entry
  asks for nothing.
* **`deeds_cases`** — an entry does nothing, or it changes one thing and then writes.
-/

namespace TableFeed

variable {π : Type}

/-- A change of things, or a writing of the store. -/
inductive Deed where
  | installed (id : String)
  | removed (id : String)
  | saved
  | saveFailed
  deriving DecidableEq, Repr

/-- It installs, replaces or removes a thing. -/
def Deed.changes : Deed → Bool
  | .installed _ | .removed _ => true
  | _ => false

/-- The same things, but for the pollers that run. -/
structure Registry.SameThings (r r' : Registry) : Prop where
  sources : r'.sources = r.sources
  feeds : ∀ id, (r'.feed? id).map Feed.idle = (r.feed? id).map Feed.idle

namespace Adapter

/-- Writing the store, as a deed. -/
def saveDeed (a : Adapter π) : Deed :=
  if a.save.2.isNone then .saved else .saveFailed

/-- What a call does that changes a thing and then writes the store: nothing, if the change fails. -/
def deedsBehind (change : Deed) : Adapter π × Option Error → List Deed
  | (_, some _) => []
  | (a, none) => [change, a.saveDeed]

/-- What the creation of a thing does. -/
def createDeeds (a : Adapter π) (id channel metadata : String) : List Deed :=
  if isBlankMetadata (Blank.trim metadata) then []
  else deedsBehind (.installed id) (a.install id channel (Blank.trim metadata))

/-- What the removal of a thing does. -/
def removeDeeds (a : Adapter π) (id : String) : List Deed :=
  deedsBehind (.removed id) (a.remove id)

/-- What processing an entry does. -/
def deeds (a : Adapter π) (e : Entry) : List Deed :=
  match Event.decode e with
  | .ok (.thingCreate p) | .ok (.thingUpdate p) => a.createDeeds p.id p.channel p.source
  | .ok (.thingRemove id) => a.removeDeeds id
  | _ => []

/-- It is the removal of a thing that is not there. -/
def FindsNothing (a : Adapter π) (e : Entry) : Prop :=
  ∃ id, Event.decode e = .ok (.thingRemove id) ∧ a.registry.feed? id = none

end Adapter

/-! ## What deeds do -/

/-- One adapter becomes the other by a deed, and keeps its store in the same file. -/
def Deed.Does (d : Deed) (a a' : Adapter π) : Prop :=
  a'.path = a.path ∧ match d with
    | .installed id => a'.surroundings = a.surroundings ∧
      ∃ channel reader, a'.registry = a.registry.install id channel reader
    | .removed id =>
      a'.surroundings = a.surroundings ∧ a.registry.remove? id = some a'.registry
    | .saved => a'.registry = a.registry ∧
      a.surroundings.write a.path (Utf8.bytes a.registry.storeText) = (a'.surroundings, none)
    | .saveFailed => a'.registry = a.registry ∧ ∃ cause,
      a.surroundings.write a.path (Utf8.bytes a.registry.storeText) = (a'.surroundings, some cause)

/-- One adapter becomes the other by some deeds, in order, and nothing else is done to things and to
the surroundings. -/
inductive Performs : Adapter π → List Deed → Adapter π → Prop
  | done {a a' : Adapter π} (hthings : a.registry.SameThings a'.registry)
      (hsurroundings : a'.surroundings = a.surroundings) : Performs a [] a'
  | act {a b a' : Adapter π} {d : Deed} {ds : List Deed} (hdeed : d.Does a b)
      (hrest : Performs b ds a') : Performs a (d :: ds) a'

namespace Service

variable {σ : Type} (service : Service σ)

/-- A call that is logged does what it does anyway and leaves a line more. -/
theorem trace_eq (operation : String) (call : σ → σ × Option Error) (s : σ) :
    service.trace operation call s =
      (service.note (outcome operation (call s).2) (call s).1, (call s).2) := rfl

theorem traced_createThing (id channel metadata : String) (s : σ) :
    service.traced.createThing id channel metadata s =
      service.trace s!"create_thing mfx:dbreader:{id}:{channel}"
        (service.createThing id channel metadata) s := rfl

theorem traced_removeThing (id : String) (s : σ) :
    service.traced.removeThing id s =
      service.trace s!"remove_thing mfx:dbreader:{id}" (service.removeThing id) s := rfl

theorem traced_removeChannel (id : String) (s : σ) :
    service.traced.removeChannel id s =
      service.trace s!"remove_channel mfx_channel_{id}" (service.removeChannel id) s := rfl

end Service

namespace Registry

theorem SameThings.refl (r : Registry) : r.SameThings r :=
  ⟨rfl, fun _ => rfl⟩

/-- Starting a poller leaves the things as they are. -/
theorem sameThings_start (r : Registry) (id : String) (traced : Bool) (now : Instant) :
    r.SameThings (r.start id traced now).1 := by
  have h := started r id traced now
  generalize (r.start id traced now).1 = r' at h ⊢
  have hput : ∀ (f g : Feed), r.feed? id = some f → g.idle = f.idle → ∀ i,
      ((putFeed id g r.feeds).lookup i).map Feed.idle = (r.feed? i).map Feed.idle := by
    intro f g hf hidle i
    rw [lookup_putFeed]
    split
    · rename_i heq
      rw [heq, hf, Option.map_some, Option.map_some, hidle]
    · rfl
  cases h with
  | unknown _ => exact SameThings.refl r
  | beyond f hf => exact ⟨halt_sources r f.poller, hput f f.idle hf rfl⟩
  | fresh f ticker hf _ => exact ⟨halt_sources r f.poller, hput f _ hf rfl⟩

end Registry

namespace Adapter

/-- Writing the store is one deed. -/
theorem does_save (a : Adapter π) : a.saveDeed.Does a a.save.1 := by
  unfold saveDeed save writeStore
  rcases h : a.surroundings.write a.path (Utf8.bytes a.registry.storeText) with ⟨s, _ | cause⟩
  · exact ⟨rfl, rfl, h⟩
  · exact ⟨rfl, rfl, cause, h⟩

/-- Writing the store fails with the failure of its file. -/
theorem save_failure (a : Adapter π) (e : Error) (h : a.save.2 = some e) :
    ∃ cause, e = .file cause := by
  unfold save writeStore at h
  rcases hw : a.surroundings.write a.path (Utf8.bytes a.registry.storeText) with ⟨s, _ | cause⟩
  · rw [hw] at h
    cases h
  · rw [hw] at h
    exact ⟨cause, (Option.some.inj h).symm⟩

/-- Preparing a reader leaves the store and the surroundings as they are. -/
theorem prepare_surroundings (a : Adapter π) (metadata : String) :
    (a.prepare metadata).1.path = a.path ∧
      (a.prepare metadata).1.surroundings = a.surroundings := by
  unfold prepare build
  split
  · exact ⟨rfl, rfl⟩
  · split <;> exact ⟨rfl, rfl⟩

/-- An installation that succeeds is one deed, one that fails is none. -/
theorem install_cases (a : Adapter π) (id channel metadata : String) :
    (∃ a' e, a.install id channel metadata = (a', some e) ∧ Performs a [] a') ∨
      ∃ a', a.install id channel metadata = (a', none) ∧ (Deed.installed id).Does a a' := by
  have hregistry := a.prepare_registry metadata
  obtain ⟨hpath, hsurroundings⟩ := a.prepare_surroundings metadata
  unfold install
  generalize a.prepare metadata = prepared at hregistry hpath hsurroundings ⊢
  rcases prepared with ⟨b, e | reader⟩
  · have hthings : a.registry.SameThings b.registry := hregistry ▸ Registry.SameThings.refl _
    exact Or.inl ⟨b, e, rfl, .done hthings hsurroundings⟩
  · refine Or.inr ⟨b.put id channel reader, rfl, hpath, hsurroundings, channel, reader, ?_⟩
    show b.registry.install id channel reader = _
    rw [show b.registry = a.registry from hregistry]

/-- A removal that succeeds is one deed, one that fails is none and finds nothing to remove. -/
theorem remove_cases (a : Adapter π) (id : String) :
    (a.registry.feed? id = none ∧ a.remove id = (a, some (.notFound id))) ∨
      ∃ a', a.remove id = (a', none) ∧ (Deed.removed id).Does a a' := by
  unfold remove
  cases h : a.registry.remove? id with
  | none => exact Or.inl ⟨Option.map_eq_none_iff.mp h, rfl⟩
  | some registry => exact Or.inr ⟨_, rfl, rfl, rfl, h⟩

/-- Starting a poller does nothing to things and surroundings. -/
theorem performs_schedule (a : Adapter π) (id : String) (traced : Bool) :
    Performs a [] (a.schedule id traced).1 := by
  refine .done ?_ ?_
  · rw [schedule_registry]
    exact a.registry.sameThings_start id traced a.now
  · unfold schedule
    split <;> rfl

theorem saveDeed_saved {a : Adapter π} (h : a.save.2 = none) : a.saveDeed = .saved := by
  unfold saveDeed
  rw [h]
  rfl

/-- Writing the store and starting a poller is the deed of writing. -/
theorem saveAndSchedule_deeds (a : Adapter π) (id : String) :
    Performs a [a.saveDeed] (a.saveAndSchedule id).1 ∧
      ((a.saveAndSchedule id).2 = none → a.saveDeed = .saved) := by
  have hschedule := a.save.1.performs_schedule id false
  unfold saveAndSchedule
  simp only
  rcases hs : a.save.1.schedule id false with ⟨b, _ | e⟩
  · rw [hs] at hschedule
    exact ⟨.act a.does_save hschedule, saveDeed_saved⟩
  · rw [hs] at hschedule
    exact ⟨.act a.does_save hschedule, fun h => by cases h⟩

/-! ## Calls -/

/-- The creation of a thing does its deeds, and writes the store if it succeeds. -/
theorem createThing_deeds (a : Adapter π) (id channel metadata : String) :
    Performs a (a.createDeeds id channel metadata) (a.createThing id channel metadata).1 ∧
      ((a.createThing id channel metadata).2 = none →
        .saved ∈ a.createDeeds id channel metadata) := by
  unfold createDeeds createThing
  by_cases hblank : isBlankMetadata (Blank.trim metadata) = true
  · simp only [hblank, if_true]
    exact ⟨.done (Registry.SameThings.refl _) rfl, fun h => by cases h⟩
  · simp only [hblank]
    rcases a.install_cases id channel (Blank.trim metadata) with ⟨b, e, heq, hnone⟩ | ⟨b, heq, hdeed⟩
    · rw [heq]
      exact ⟨hnone, fun h => by cases h⟩
    · rw [heq]
      obtain ⟨hperforms, hsaved⟩ := b.saveAndSchedule_deeds id
      refine ⟨.act hdeed hperforms, fun h => ?_⟩
      show Deed.saved ∈ [.installed id, b.saveDeed]
      rw [hsaved h]
      exact List.mem_cons_of_mem _ List.mem_cons_self

/-- The removal of a thing does its deeds, and writes the store if it succeeds. It fails for want of
the thing only if it finds none. -/
theorem removeThing_deeds (a : Adapter π) (id : String) :
    Performs a (a.removeDeeds id) (a.removeThing id).1 ∧
      ((a.removeThing id).2 = none → .saved ∈ a.removeDeeds id) ∧
      ∀ e, (a.removeThing id).2 = some e → e.isNotFound = true → a.registry.feed? id = none := by
  unfold removeDeeds removeThing
  rcases a.remove_cases id with ⟨hnone, heq⟩ | ⟨b, heq, hdeed⟩
  · rw [heq]
    exact ⟨.done (Registry.SameThings.refl _) rfl, (fun h => by cases h), fun _ _ _ => hnone⟩
  · rw [heq]
    -- once removed, the call can only fail with the file, which no one takes for an unknown thing
    have hsave := b.does_save
    have hsaved := saveDeed_saved (a := b)
    have hfile := b.save_failure
    simp only
    rcases hs : b.save with ⟨c, _ | e⟩
    · rw [hs] at hsave hsaved
      refine ⟨.act hdeed (.act hsave (.done (Registry.SameThings.refl _) rfl)), fun _ => ?_, ?_⟩
      · show Deed.saved ∈ [.removed id, b.saveDeed]
        rw [hsaved rfl]
        exact List.mem_cons_of_mem _ List.mem_cons_self
      · intro e h
        cases h
    · rw [hs] at hsave hfile
      refine ⟨.act hdeed (.act hsave (.done (Registry.SameThings.refl _) rfl)),
        (fun h => by cases h), ?_⟩
      intro e' h hnot
      obtain rfl := Option.some.inj h
      obtain ⟨cause, rfl⟩ := hfile e rfl
      cases hnot

/-! ## The shape of deeds -/

theorem saveDeed_cases (a : Adapter π) : a.saveDeed = .saved ∨ a.saveDeed = .saveFailed := by
  unfold saveDeed
  split
  · exact Or.inl rfl
  · exact Or.inr rfl

theorem deedsBehind_cases (change : Deed) (out : Adapter π × Option Error) :
    deedsBehind change out = [] ∨ ∃ save, deedsBehind change out = [change, save] ∧
      (save = .saved ∨ save = .saveFailed) := by
  rcases out with ⟨b, _ | e⟩
  · exact Or.inr ⟨b.saveDeed, rfl, b.saveDeed_cases⟩
  · exact Or.inl rfl

theorem createDeeds_cases (a : Adapter π) (id channel metadata : String) :
    a.createDeeds id channel metadata = [] ∨
      ∃ save, a.createDeeds id channel metadata = [.installed id, save] ∧
        (save = .saved ∨ save = .saveFailed) := by
  unfold createDeeds
  split
  · exact Or.inl rfl
  · exact deedsBehind_cases _ _

/-- An entry does nothing, or it changes one thing and writes the store behind that. -/
theorem deeds_cases (a : Adapter π) (e : Entry) :
    a.deeds e = [] ∨ ∃ change save, a.deeds e = [change, save] ∧ change.changes = true ∧
      (save = .saved ∨ save = .saveFailed) := by
  unfold deeds
  split
  · rename_i p _
    rcases a.createDeeds_cases p.id p.channel p.source with hnone | ⟨save, heq, hsave⟩
    · exact Or.inl hnone
    · exact Or.inr ⟨_, save, heq, rfl, hsave⟩
  · rename_i p _
    rcases a.createDeeds_cases p.id p.channel p.source with hnone | ⟨save, heq, hsave⟩
    · exact Or.inl hnone
    · exact Or.inr ⟨_, save, heq, rfl, hsave⟩
  · rename_i id _
    rcases deedsBehind_cases (.removed id) (a.remove id) with hnone | ⟨save, heq, hsave⟩
    · exact Or.inl hnone
    · exact Or.inr ⟨_, save, heq, rfl, hsave⟩
  · exact Or.inl rfl

/-- Where nothing is found to remove, nothing is done. -/
theorem FindsNothing.deeds_eq {a : Adapter π} {e : Entry} (h : a.FindsNothing e) :
    a.deeds e = [] := by
  obtain ⟨id, hdecode, hnone⟩ := h
  unfold deeds
  rw [hdecode]
  show a.removeDeeds id = []
  unfold removeDeeds
  rcases a.remove_cases id with ⟨_, heq⟩ | ⟨b, heq, _, _, hremove⟩
  · rw [heq]
    rfl
  · unfold Registry.remove? at hremove
    rw [hnone] at hremove
    cases hremove

/-! ## Entries -/

/-- More in the log changes no deed. -/
theorem performs_log {a a' : Adapter π} {ds : List Deed} (h : Performs a ds a')
    (log : List LogLine) : Performs a ds { a' with log } := by
  induction h with
  | done hthings hsurroundings => exact .done hthings hsurroundings
  | act hdeed _ ih => exact .act hdeed ih

/-- More in the log is no deed. -/
theorem performs_nothing (a : Adapter π) (log : List LogLine) : Performs a [] { a with log } :=
  .done (Registry.SameThings.refl a.registry) rfl

variable [Publisher π]

theorem service_createThing (id channel metadata : String) (a : Adapter π) :
    service.createThing id channel metadata a = a.createThing id channel metadata := by
  simp only [service]

theorem service_removeThing (id : String) (a : Adapter π) :
    service.removeThing id a = a.removeThing id := by
  simp only [service]

theorem service_removeChannel (id : String) (a : Adapter π) :
    service.removeChannel id a = (a, none) := rfl

theorem service_note (line : LogLine) (a : Adapter π) :
    service.note line a = { a with log := a.log ++ [line] } := rfl

theorem serviceFor_false : serviceFor false = service (π := π) :=
  if_neg Bool.false_ne_true

theorem serviceFor_true : serviceFor true = (service (π := π)).traced :=
  if_pos rfl

/-- A call that is logged is the call but for the log. -/
theorem trace_log (operation : String) (call : Adapter π → Adapter π × Option Error)
    (a : Adapter π) :
    ∃ log, service.trace operation call a = ({ (call a).1 with log }, (call a).2) := by
  rw [Service.trace_eq, service_note]
  exact ⟨_, rfl⟩

omit [Publisher π] in
/-- So is a call that is not logged. -/
theorem quiet_log (out : Adapter π × Option Error) :
    ∃ log, out = ({ out.1 with log }, out.2) :=
  ⟨out.1.log, rfl⟩

theorem serviceFor_createThing (traced : Bool) (a : Adapter π) (id channel metadata : String) :
    ∃ log, (serviceFor traced).createThing id channel metadata a =
      ({ (a.createThing id channel metadata).1 with log }, (a.createThing id channel metadata).2) := by
  rw [← service_createThing]
  cases traced with
  | false =>
    rw [serviceFor_false]
    exact quiet_log _
  | true =>
    rw [serviceFor_true, Service.traced_createThing]
    exact trace_log _ _ a

theorem serviceFor_removeThing (traced : Bool) (a : Adapter π) (id : String) :
    ∃ log, (serviceFor traced).removeThing id a =
      ({ (a.removeThing id).1 with log }, (a.removeThing id).2) := by
  rw [← service_removeThing]
  cases traced with
  | false =>
    rw [serviceFor_false]
    exact quiet_log _
  | true =>
    rw [serviceFor_true, Service.traced_removeThing]
    exact trace_log _ _ a

theorem serviceFor_removeChannel (traced : Bool) (a : Adapter π) (id : String) :
    ∃ log, (serviceFor traced).removeChannel id a = ({ a with log }, none) := by
  cases traced with
  | false =>
    rw [serviceFor_false, service_removeChannel]
    exact quiet_log (a, none)
  | true =>
    rw [serviceFor_true, Service.traced_removeChannel]
    have h := trace_log s!"remove_channel mfx_channel_{id}" (service.removeChannel id) a
    rw [service_removeChannel] at h
    exact h

theorem serviceFor_note (traced : Bool) (a : Adapter π) (line : LogLine) :
    (serviceFor traced).note line a = { a with log := a.log ++ [line] } := by
  cases traced <;> rfl

/-- Handling an event that creates or updates a thing does the deeds of its creation. -/
theorem handle_create (traced : Bool) (p : Provision) (a : Adapter π) :
    Performs a (a.createDeeds p.id p.channel p.source)
        ((serviceFor traced).createThing p.id p.channel p.source a).1 ∧
      (((serviceFor traced).createThing p.id p.channel p.source a).2 = none →
        .saved ∈ a.createDeeds p.id p.channel p.source) := by
  obtain ⟨log, heq⟩ := serviceFor_createThing traced a p.id p.channel p.source
  obtain ⟨hperforms, hsaved⟩ := a.createThing_deeds p.id p.channel p.source
  rw [heq]
  exact ⟨performs_log hperforms log, hsaved⟩

/-- **Processing an entry does its deeds.** It does not fail only if what it did ends with a
successful writing, it found nothing to remove, or the entry asks for nothing that could be done. -/
theorem process_deeds (traced : Bool) (e : Entry) (a : Adapter π) :
    Performs a (a.deeds e) ((serviceFor traced).process e a).1 ∧
      (((serviceFor traced).process e a).2 = none →
        .saved ∈ a.deeds e ∨ a.FindsNothing e ∨ ∀ b : Adapter π, b.deeds e = []) := by
  unfold deeds FindsNothing Service.process
  cases hdecode : Event.decode e with
  | error cause =>
    -- for another adapter or malformed, the entry has no deeds at any adapter
    refine ⟨?_, fun _ => Or.inr (Or.inr fun _ => rfl)⟩
    cases cause with
    | foreignMetadata domain =>
      simp only [serviceFor_note]
      exact a.performs_nothing _
    | _ => exact .done (Registry.SameThings.refl a.registry) rfl
  | ok event =>
    cases event with
    | thingCreate p =>
      obtain ⟨hperforms, hsaved⟩ := handle_create traced p a
      exact ⟨hperforms, fun h => Or.inl (hsaved h)⟩
    | thingUpdate p =>
      obtain ⟨hperforms, hsaved⟩ := handle_create traced p a
      exact ⟨hperforms, fun h => Or.inl (hsaved h)⟩
    | thingRemove id =>
      obtain ⟨log, heq⟩ := serviceFor_removeThing traced a id
      obtain ⟨hperforms, hsaved, hnot⟩ := a.removeThing_deeds id
      simp only [Service.handle, heq]
      generalize a.removeThing id = out at hperforms hsaved hnot
      rcases out with ⟨b, _ | cause⟩
      · exact ⟨performs_log hperforms log, fun _ => Or.inl (hsaved rfl)⟩
      · cases hfound : cause.isNotFound with
        | true =>
          -- the one failure that counts as handled
          simp only [hfound, if_true, serviceFor_note]
          exact ⟨performs_log hperforms _, fun _ =>
            Or.inr (Or.inl ⟨id, rfl, hnot cause rfl hfound⟩)⟩
        | false =>
          simp only [hfound, Bool.false_eq_true, if_false]
          exact ⟨performs_log hperforms log, fun h => by cases h⟩
    | channelRemove id =>
      obtain ⟨log, heq⟩ := serviceFor_removeChannel traced a id
      refine ⟨?_, fun _ => Or.inr (Or.inr fun _ => rfl)⟩
      simp only [Service.handle, heq]
      exact a.performs_nothing log
    | ignored operation =>
      exact ⟨.done (Registry.SameThings.refl a.registry) rfl, fun _ => Or.inr (Or.inr fun _ => rfl)⟩

end Adapter

end TableFeed
