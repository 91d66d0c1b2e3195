import TableFeed.Proofs.Events.Convergence
import TableFeed.Proofs.Events.Outcome

/-!
# Entries that are not meant for the adapter

Others share the stream. Entries may carry operations that the adapter does not act on, remove channels
or bring metadata for another adapter. A batch with such entries is compared to the batch without them.

Both are delivered side by side. The crux is what may differ meanwhile: the log, as every entry may
leave lines there, and the counts of the irrelevant entries, as their success clears these. So what the
service does must not depend on the log (`Shows`), and no other entry may have the id of an irrelevant
one, which is all that the ids being different is needed for (`deliverTracked_relevant`).

An adapter is such a service: no call reads the log (`createThing_ignoresLog`, `removeThing_ignoresLog`).
-/

namespace TableFeed

/-- Nothing in the entry is for this adapter to do. -/
def Entry.irrelevant (e : Entry) : Bool :=
  match Event.decode e with
  | .ok (.ignored _) | .ok (.channelRemove _) | .error (.foreignMetadata _) => true
  | _ => false

/-- The entries of a batch that are for this adapter. -/
def relevant (entries : List Entry) : List Entry :=
  entries.filter (! ·.irrelevant)

/-- The ids of the entries of a batch that are not. -/
def irrelevantIds (entries : List Entry) : List String :=
  (entries.filter (·.irrelevant)).map (·.id)

/-- The delivery with no word of some entries. -/
def Delivery.without (d : Delivery) (ids : List String) : Delivery :=
  { d with acked := d.acked.filter (· ∉ ids) }

theorem Entry.irrelevant_iff {e : Entry} : e.irrelevant = true ↔ e.wish? = some .nothing := by
  unfold irrelevant wish?
  cases Event.decode e with
  | error cause => cases cause <;> simp
  | ok event => cases event <;> simp

/-! ## Counts that agree -/

namespace Attempts

/-- The counts are the same, but for some entries. -/
structure AgreeBut (ids : List String) (a b : Attempts) : Prop where
  limit : b.limit = a.limit
  recorded? : ∀ id ∉ ids, b.recorded? id = a.recorded? id

namespace AgreeBut

variable {ids : List String} {a b : Attempts} {id : String}

theorem refl (ids : List String) (a : Attempts) : AgreeBut ids a a :=
  ⟨rfl, fun _ _ => rfl⟩

theorem count (h : AgreeBut ids a b) (hid : id ∉ ids) : b.count id = a.count id := by
  show (b.recorded? id).getD 0 = (a.recorded? id).getD 0
  rw [h.recorded? id hid]

theorem clear (h : AgreeBut ids a b) (id : String) : AgreeBut ids (a.clear id) (b.clear id) where
  limit := h.limit
  recorded? i hi := by rw [recorded?_clear, recorded?_clear, h.recorded? i hi]

theorem counted (h : AgreeBut ids a b) (hid : id ∉ ids) :
    AgreeBut ids (a.counted id) (b.counted id) where
  limit := h.limit
  recorded? i hi := by rw [recorded?_counted, recorded?_counted, h.recorded? i hi, h.count hid]

/-- What is done to the count of one of those entries is of no account. -/
theorem clear_left (h : AgreeBut ids a b) (hid : id ∈ ids) : AgreeBut ids (a.clear id) b where
  limit := h.limit
  recorded? i hi := by
    have hne : i ≠ id := fun heq => hi (heq ▸ hid)
    rw [recorded?_clear, if_neg hne, h.recorded? i hi]

end AgreeBut

end Attempts

/-! ## Two deliveries side by side -/

section Deliveries

variable {ids : List String} {d : Delivery} {id : String}

theorem without_settle_irrelevant (hid : id ∈ ids) :
    (d.settle id .handled).without ids = d.without ids := by
  simp [Delivery.settle, Delivery.without, hid]

theorem without_settle (hid : id ∉ ids) (v : Verdict) :
    (d.settle id v).without ids = (d.without ids).settle id v := by
  simp [Delivery.settle, Delivery.without, hid]

end Deliveries

namespace Service

variable {σ τ : Type}

/-- What a service does depends on what a view shows of the state, and shows there. The view shows
nothing of the log, and nothing of what comes of irrelevant entries, which always succeed. -/
structure Shows (service : Service σ) (view : σ → τ) : Prop where
  note (line : LogLine) (s : σ) : view (service.note line s) = view s
  irrelevant {e : Entry} (h : e.irrelevant = true) (s : σ) :
    view (service.process e s).1 = view s ∧ (service.process e s).2 = none
  process (e : Entry) {s t : σ} (h : view t = view s) :
    view (service.process e t).1 = view (service.process e s).1 ∧
      (service.process e t).2 = (service.process e s).2

variable {service : Service σ} {view : σ → τ} {ids : List String} {a b : Attempts} {s t : σ}
  {e : Entry}

/-- An irrelevant entry succeeds out of view. -/
theorem Shows.attempt_irrelevant (h : service.Shows view) (he : e.irrelevant = true)
    (a : Attempts) (s : σ) :
    ∃ s', service.attempt e (some a) s = (s', some (a.clear e.id), .handled) ∧
      view s' = view s := by
  obtain ⟨hview, hnone⟩ := h.irrelevant he s
  unfold attempt
  rcases hp : service.process e s with ⟨s', failure⟩
  rw [hp] at hview hnone
  obtain rfl : failure = none := hnone
  exact ⟨s', rfl, hview⟩

/-- An attempt at an entry comes to the same where its count and the view are the same. -/
theorem Shows.attempt (h : service.Shows view) (hid : e.id ∉ ids) (hagree : a.AgreeBut ids b)
    (hview : view t = view s) :
    ∃ s' t' a' b' v, service.attempt e (some a) s = (s', some a', v) ∧
      service.attempt e (some b) t = (t', some b', v) ∧ view t' = view s' ∧ a'.AgreeBut ids b' := by
  obtain ⟨hprocess, hfailure⟩ := h.process e hview
  have hcount := hagree.count hid
  have hlimit := hagree.limit
  unfold Service.attempt
  rcases hp : service.process e s with ⟨s', failure⟩
  rcases hq : service.process e t with ⟨t', failure'⟩
  rw [hp, hq] at hprocess hfailure
  obtain rfl : failure' = failure := hfailure
  cases failure' with
  | none => exact ⟨s', t', _, _, _, rfl, rfl, hprocess, hagree.clear e.id⟩
  | some cause =>
    -- whether this failure is the last one allowed, both counts say alike
    by_cases hlast : a.limit ≤ a.count e.id + 1
    · have hlast' : b.limit ≤ b.count e.id + 1 := by omega
      simp only [Option.map_some, Attempts.fail_of_last hlast, Attempts.fail_of_last hlast']
      refine ⟨_, _, _, _, _, rfl, rfl, ?_, hagree.clear e.id⟩
      rw [h.note, h.note, hprocess]
    · have hmore : ¬ b.limit ≤ b.count e.id + 1 := by omega
      simp only [Option.map_some, Attempts.fail_of_more hlast, Attempts.fail_of_more hmore]
      refine ⟨_, _, _, _, _, rfl, rfl, ?_, hagree.counted hid⟩
      rw [h.note, h.note, hprocess]

/-- A batch and its relevant entries come to the same, if the ids tell irrelevant entries apart. -/
theorem Shows.deliverTracked_relevant (h : service.Shows view) (entries : List Entry)
    (hids : ∀ e ∈ entries, e.irrelevant = true ↔ e.id ∈ ids) (hagree : a.AgreeBut ids b)
    (hview : view t = view s) :
    view (service.deliverTracked (relevant entries) b t).1 =
        view (service.deliverTracked entries a s).1 ∧
      (service.deliverTracked entries a s).2.1.AgreeBut ids
        (service.deliverTracked (relevant entries) b t).2.1 ∧
      (service.deliverTracked (relevant entries) b t).2.2 =
        (service.deliverTracked entries a s).2.2.without ids := by
  induction entries generalizing a b s t with
  | nil => exact ⟨hview, hagree, rfl⟩
  | cons e rest ih =>
    have hrest : ∀ e ∈ rest, e.irrelevant = true ↔ e.id ∈ ids :=
      fun e he => hids e (List.mem_cons_of_mem _ he)
    have hiff := hids e List.mem_cons_self
    by_cases he : e.irrelevant = true
    · -- the batch takes a step that the relevant entries do not take
      have hskip : relevant (e :: rest) = relevant rest := List.filter_cons_of_neg (by simp [he])
      obtain ⟨s', hattempt, hview'⟩ := h.attempt_irrelevant he a s
      rw [hskip, deliverTracked_settled rest hattempt rfl, without_settle_irrelevant (hiff.mp he)]
      exact ih hrest (hagree.clear_left (hiff.mp he)) (hview.trans hview'.symm)
    · have hkeep : relevant (e :: rest) = e :: relevant rest :=
        List.filter_cons_of_pos (by simp [he])
      have hid : e.id ∉ ids := fun hmem => he (hiff.mpr hmem)
      obtain ⟨s', t', a', b', v, hs, ht, hview', hagree'⟩ := h.attempt hid hagree hview
      rw [hkeep]
      cases hv : v.settled with
      | false =>
        obtain rfl := Verdict.settled_eq_false.mp hv
        rw [deliverTracked_failed rest hs, deliverTracked_failed (relevant rest) ht]
        exact ⟨hview', hagree', rfl⟩
      | true =>
        obtain ⟨hview'', hagree'', hd⟩ := ih hrest hagree' hview'
        rw [deliverTracked_settled rest hs hv, deliverTracked_settled (relevant rest) ht hv,
          without_settle hid, hd]
        exact ⟨hview'', hagree'', rfl⟩

end Service

/-- Different ids tell the irrelevant entries apart. -/
theorem irrelevant_iff_mem {entries : List Entry} (hids : (entries.map (·.id)).Nodup) :
    ∀ e ∈ entries, e.irrelevant = true ↔ e.id ∈ irrelevantIds entries := by
  intro e he
  constructor
  · intro h
    exact List.mem_map_of_mem (List.mem_filter.mpr ⟨he, h⟩)
  · intro h
    obtain ⟨e', hmem, hid⟩ := List.mem_map.mp h
    obtain ⟨hmem, hirrelevant⟩ := List.mem_filter.mp hmem
    rwa [← List.inj_on_of_nodup_map hids hmem he hid]

/-! ## No call reads the log -/

namespace Adapter

variable {π : Type}

/-- The adapter with nothing in its log. -/
def unlogged (a : Adapter π) : Adapter π :=
  { a with log := [] }

theorem registry_unlogged (a : Adapter π) : a.unlogged.registry = a.registry :=
  rfl

theorem eq_of_unlogged {a b : Adapter π} (h : b.unlogged = a.unlogged) :
    ∃ log, b = { a with log } := by
  obtain ⟨kind, path, access, registry, surroundings, publisher, now, mounts, log⟩ := a
  obtain ⟨kind', path', access', registry', surroundings', publisher', now', mounts', log'⟩ := b
  simp only [unlogged, Adapter.mk.injEq, and_true] at h
  obtain ⟨rfl, rfl, rfl, rfl, rfl, rfl, rfl, rfl⟩ := h
  exact ⟨log', rfl⟩

/-- The call comes to the same whatever the log holds. It may leave lines there. -/
def IgnoresLog {ρ : Type} (call : Adapter π → Adapter π × ρ) : Prop :=
  ∀ a log, ∃ log', call { a with log } = ({ (call a).1 with log := log' }, (call a).2)

theorem nothing_ignoresLog {ρ : Type} (result : ρ) : IgnoresLog (π := π) (·, result) :=
  fun _ log => ⟨log, rfl⟩

/-- A call that only adds lines to what another comes to ignores the log if that one does. -/
theorem IgnoresLog.noting {ρ : Type} {call noting : Adapter π → Adapter π × ρ} (h : IgnoresLog call)
    (hnoting : ∀ a, ∃ log, noting a = ({ (call a).1 with log }, (call a).2)) :
    IgnoresLog noting := by
  intro a log
  obtain ⟨log₁, h₁⟩ := hnoting a
  obtain ⟨log₂, h₂⟩ := hnoting { a with log }
  obtain ⟨log₃, h₃⟩ := h a log
  rw [h₁, h₂, h₃]
  exact ⟨log₂, rfl⟩

theorem prepare_ignoresLog (metadata : String) :
    IgnoresLog (π := π) (·.prepare metadata) := by
  intro a log
  unfold prepare build
  cases Json.parse metadata with
  | error cause => exact ⟨_, rfl⟩
  | ok metadata =>
    simp only
    cases Reader.ofMetadata a.kind metadata <;> exact ⟨_, rfl⟩

theorem install_ignoresLog (id channel metadata : String) :
    IgnoresLog (π := π) (·.install id channel metadata) := by
  intro a log
  obtain ⟨log', h⟩ := prepare_ignoresLog metadata a log
  unfold install
  simp only [h]
  rcases a.prepare metadata with ⟨b, e | reader⟩ <;> exact ⟨_, rfl⟩

theorem save_ignoresLog : IgnoresLog (π := π) (·.save) := by
  intro a log
  unfold save writeStore
  simp only
  rcases a.surroundings.write a.path (Utf8.bytes a.registry.storeText) with ⟨s, _ | cause⟩ <;>
    exact ⟨_, rfl⟩

theorem schedule_ignoresLog (id : String) (traced : Bool) :
    IgnoresLog (π := π) (·.schedule id traced) := by
  intro a log
  unfold schedule
  simp only
  rcases a.registry.start id traced a.now with ⟨r, _ | e⟩ <;> exact ⟨_, rfl⟩

theorem saveAndSchedule_ignoresLog (id : String) :
    IgnoresLog (π := π) (·.saveAndSchedule id) := by
  intro a log
  obtain ⟨log', hsave⟩ := save_ignoresLog a log
  obtain ⟨log'', hschedule⟩ := schedule_ignoresLog id false a.save.1 log'
  unfold saveAndSchedule
  simp only [hsave, hschedule]
  rcases a.save.1.schedule id false with ⟨b, _ | e⟩ <;> exact ⟨_, rfl⟩

theorem createThing_ignoresLog (id channel metadata : String) :
    IgnoresLog (π := π) (·.createThing id channel metadata) := by
  intro a log
  unfold createThing
  by_cases hblank : isBlankMetadata (Blank.trim metadata) = true
  · simp only [hblank, if_true]
    exact ⟨_, rfl⟩
  · obtain ⟨log', hinstall⟩ := install_ignoresLog id channel (Blank.trim metadata) a log
    simp only [hblank, hinstall]
    rcases a.install id channel (Blank.trim metadata) with ⟨b, _ | e⟩
    · exact saveAndSchedule_ignoresLog id b log'
    · exact ⟨_, rfl⟩

theorem remove_ignoresLog (id : String) : IgnoresLog (π := π) (·.remove id) := by
  intro a log
  unfold remove
  simp only
  cases a.registry.remove? id <;> exact ⟨_, rfl⟩

theorem removeThing_ignoresLog (id : String) : IgnoresLog (π := π) (·.removeThing id) := by
  intro a log
  obtain ⟨log', hremove⟩ := remove_ignoresLog id a log
  unfold removeThing
  simp only [hremove]
  rcases a.remove id with ⟨b, _ | e⟩
  · obtain ⟨log'', hsave⟩ := save_ignoresLog b log'
    simp only [hsave]
    rcases b.save with ⟨c, _ | e⟩ <;> exact ⟨_, rfl⟩
  · exact ⟨_, rfl⟩

/-! ## The adapter as such a service -/

variable [Publisher π] (traced : Bool)

theorem serviceFor_createThing_ignoresLog (id channel metadata : String) :
    IgnoresLog (π := π) ((serviceFor traced).createThing id channel metadata) :=
  (createThing_ignoresLog id channel metadata).noting
    (serviceFor_createThing traced · id channel metadata)

theorem serviceFor_removeThing_ignoresLog (id : String) :
    IgnoresLog (π := π) ((serviceFor traced).removeThing id) :=
  (removeThing_ignoresLog id).noting (serviceFor_removeThing traced · id)

theorem serviceFor_removeChannel_ignoresLog (id : String) :
    IgnoresLog (π := π) ((serviceFor traced).removeChannel id) :=
  (nothing_ignoresLog none).noting (serviceFor_removeChannel traced · id)

/-- What comes of an entry does not depend on the log. -/
theorem process_ignoresLog (e : Entry) : IgnoresLog (π := π) ((serviceFor traced).process e) := by
  intro a log
  unfold Service.process
  cases Event.decode e with
  | error cause =>
    cases cause with
    | foreignMetadata domain =>
      simp only [serviceFor_note]
      exact ⟨_, rfl⟩
    | _ => exact ⟨log, rfl⟩
  | ok event =>
    cases event with
    | thingCreate p | thingUpdate p =>
      exact serviceFor_createThing_ignoresLog traced p.id p.channel p.source a log
    | thingRemove id =>
      obtain ⟨log', h⟩ := serviceFor_removeThing_ignoresLog traced id a log
      simp only [Service.handle, h]
      rcases (serviceFor traced).removeThing id a with ⟨b, _ | cause⟩
      · exact ⟨log', rfl⟩
      · -- the removal of what is not there is noted, and nothing else
        cases hfound : cause.isNotFound with
        | true =>
          simp only [hfound, if_true, serviceFor_note]
          exact ⟨_, rfl⟩
        | false =>
          simp only [hfound, Bool.false_eq_true, if_false]
          exact ⟨log', rfl⟩
    | channelRemove id =>
      obtain ⟨log', h⟩ := serviceFor_removeChannel_ignoresLog traced id a log
      simp only [Service.handle, h]
      exact ⟨log', rfl⟩
    | ignored operation => exact ⟨log, rfl⟩

/-- All of an adapter but its log is a view of what its service does. -/
theorem serviceFor_shows :
    (serviceFor traced).Shows (unlogged : Adapter π → Adapter π) where
  note line a := by
    rw [serviceFor_note]
    rfl
  irrelevant h a := by
    obtain ⟨log, heq⟩ := process_nothing (Entry.irrelevant_iff.mp h) traced a
    rw [heq]
    exact ⟨rfl, rfl⟩
  process e a b h := by
    obtain ⟨log, rfl⟩ := eq_of_unlogged h
    obtain ⟨log', heq⟩ := process_ignoresLog traced e a log
    rw [heq]
    exact ⟨rfl, rfl⟩

end Adapter

/-- **Irrelevant entries have no influence.** Let a batch of entries with different ids be delivered to
an adapter with failures counted, and let the same be done, from the same adapter and the same counts,
with the entries only that are meant for the adapter. Then the adapters afterwards differ in their log
at most: things, sources, pollers, store, mounts and publisher are the same. So are the limit and all
counts but those of the irrelevant entries, what is dropped and whether the batch is abandoned. What is
acknowledged differs by the irrelevant entries alone. -/
theorem irrelevant_without_influence {π : Type} [Publisher π] (traced : Bool)
    (entries : List Entry) (hids : (entries.map (·.id)).Nodup) (attempts : Attempts)
    (a : Adapter π) :
    let all := (Adapter.serviceFor traced).deliverTracked entries attempts a
    let rest := (Adapter.serviceFor traced).deliverTracked (relevant entries) attempts a
    rest.1.unlogged = all.1.unlogged ∧ all.2.1.AgreeBut (irrelevantIds entries) rest.2.1 ∧
      rest.2.2 = all.2.2.without (irrelevantIds entries) :=
  (Adapter.serviceFor_shows traced).deliverTracked_relevant entries (irrelevant_iff_mem hids)
    (.refl _ attempts) rfl

/-- A batch on a stream that others share: metadata for another adapter, a channel gone and an unknown
operation between entries that fail and one that creates a thing. -/
def shared : List Entry :=
  [⟨"1-0", [("operation", "thing.create"), ("metadata", "\x7b\"type\":\"opcua\"\x7d")]⟩,
    malformed "2-0", channelGone "3-0", creation "4-0" "t" "c",
    ⟨"5-0", [("operation", "user.create")]⟩, malformed "6-0"]

/-- A dropped entry, one that succeeds and one that fails stay what they are. The count of an irrelevant
entry is cleared in the one case only. -/
theorem irrelevant_without_influence_shared :
    let before := ((((Attempts.ofLimit 2).fail "2-0").1).fail "5-0").1
    let all := (Adapter.serviceFor true).deliverTracked shared before untouched
    let rest := (Adapter.serviceFor true).deliverTracked (relevant shared) before untouched
    (relevant shared).map (·.id) = ["2-0", "4-0", "6-0"] ∧
      rest.1.unlogged = all.1.unlogged ∧ rest.1.registry.ids = ["t"] ∧
      rest.2.2 = { acked := ["2-0", "4-0"], dropped := ["2-0"], abandoned := true } ∧
      rest.2.1.recorded? "6-0" = some 1 ∧ all.2.1.recorded? "5-0" = none ∧
      rest.2.1.recorded? "5-0" = some 1 := by
  intro before all rest
  have hids : (shared.map (·.id)).Nodup := by decide
  have hirrelevant : irrelevantIds shared = ["1-0", "3-0", "5-0"] := by decide +kernel
  obtain ⟨houtcome, hthings, hfailed, hcleared⟩ :
      all.2.2 = ⟨["1-0", "2-0", "3-0", "4-0", "5-0"], ["2-0"], true⟩ ∧
      all.1.registry.ids = ["t"] ∧ all.2.1.recorded? "6-0" = some 1 ∧
      all.2.1.recorded? "5-0" = none := by decide +kernel
  obtain ⟨hadapter, hagree, hdelivery⟩ :=
    irrelevant_without_influence true shared hids before untouched
  have hregistry : rest.1.registry = all.1.registry := by
    rw [← Adapter.registry_unlogged, hadapter, Adapter.registry_unlogged]
  refine ⟨by decide +kernel, hadapter, ?_, ?_, ?_, hcleared, by decide +kernel⟩
  · rw [hregistry, hthings]
  · show rest.2.2 = _
    rw [hdelivery, houtcome, hirrelevant]
    decide
  · rw [hagree.recorded? "6-0" (by rw [hirrelevant]; decide), hfailed]

end TableFeed
