import TableFeed.Proofs.Registry.Interleaving
import TableFeed.Proofs.Registry.StoreText
import TableFeed.Proofs.Source.Settled

/-!
# What the store keeps describes the readers

The store keeps the snapshots of sources. A snapshot is the metadata of its reader at all times, and
every reader that is put under an id was prepared, so that its metadata describes it.

* **`Registry.Kept`** — the invariant of the sources.
* **`Call.Settled`** — what it takes of the calls under way: the readers they have made and not put
  in yet are settled too.
* **`Machine.Kept.run`** — the crux: both outlive every run in which files are shorter than memory is.
  A longer one could bring a reader to a position that its metadata cannot say.
-/

namespace TableFeed

variable {π : Type} {kind : ReaderKind}

/-! ## Sources -/

namespace Registry

/-- Every source has the metadata of its reader for a snapshot, and a settled reader of the kind. -/
def Kept (kind : ReaderKind) (r : Registry) : Prop :=
  ∀ s ∈ r.sources, s.snapshot = s.reader.metadata ∧ s.reader.Settled kind

theorem kept_empty (kind : ReaderKind) : Kept kind {} :=
  List.forall_mem_nil _

variable {r r' : Registry}

theorem Kept.of_sources (h : r.Kept kind) (hsources : r'.sources = r.sources) : r'.Kept kind := by
  unfold Kept
  rw [hsources]
  exact h

theorem Kept.install (h : r.Kept kind) (id channel : String) {reader : Reader}
    (hreader : reader.Settled kind) : (r.install id channel reader).Kept kind := by
  intro s hs
  rw [sources_install] at hs
  rcases List.mem_append.mp hs with hs | hs
  · exact h s hs
  · rw [List.mem_singleton.mp hs]
    exact ⟨rfl, hreader⟩

theorem Kept.installAll {loaded : List (StoredFeed × Reader)} (h : r.Kept kind)
    (hloaded : ∀ e ∈ loaded, e.2.Settled kind) : (r.installAll loaded).Kept kind := by
  induction loaded generalizing r with
  | nil => exact h
  | cons e rest ih =>
    exact ih (h.install e.1.id e.1.channel (hloaded e List.mem_cons_self))
      fun d hd => hloaded d (List.mem_cons_of_mem e hd)

/-- One source is another one, of which the same is true. -/
theorem Kept.set (h : r.Kept kind) {i : Nat} {s : Source}
    (hs : s.snapshot = s.reader.metadata ∧ s.reader.Settled kind)
    (hsources : r'.sources = r.sources.set i s) : r'.Kept kind := by
  intro t ht
  rw [hsources] at ht
  rcases List.mem_or_eq_of_mem_set ht with ht | rfl
  · exact h t ht
  · exact hs

theorem Kept.getElem (h : r.Kept kind) {i : Nat} {s : Source} (hs : r.sources[i]? = some s) :
    s.snapshot = s.reader.metadata ∧ s.reader.Settled kind :=
  h s (List.mem_of_getElem? hs)

theorem Kept.start (h : r.Kept kind) (id : String) (traced : Bool) (now : Instant) :
    (r.start id traced now).1.Kept kind := by
  have hstarted := started r id traced now
  generalize (r.start id traced now).1 = r' at hstarted ⊢
  cases hstarted with
  | unknown _ => exact h
  | beyond f _ => exact h.of_sources (halt_sources r f.poller)
  | fresh f ticker _ _ => exact h.of_sources (halt_sources r f.poller)

theorem Kept.takeTick (h : r.Kept kind) (p : Nat) (now : Instant) :
    (r.takeTick p now).Kept kind := by
  unfold Registry.takeTick
  split
  · exact h
  · split
    · split
      · exact h
      · exact h
    · exact h

theorem Kept.holdSource (h : r.Kept kind) (p : Nat) : (r.holdSource p).Kept kind := by
  unfold Registry.holdSource
  split
  · exact h
  · split
    · rename_i s _ hs
      split
      · exact h
      · obtain ⟨hsnapshot, hreader⟩ := h.getElem hs
        exact h.set (s := { s with holder := some p }) ⟨hsnapshot, hreader⟩ rfl
    · exact h

/-- A reading leaves its source with a reader that is settled and the metadata of it. -/
theorem Kept.finishReading (h : r.Kept kind) (p : Nat) {reader : Reader}
    (hreader : reader.Settled kind) (result : Except ReadError (List Row)) :
    (r.finishReading p kind reader result).Kept kind := by
  unfold Registry.finishReading
  split
  · exact h
  · dsimp only
    split
    · exact h.set ⟨rfl, hreader⟩ rfl
    · exact h.set ⟨rfl, hreader⟩ rfl

end Registry

/-! ## Calls -/

/-- The readers that a call has made are settled. -/
def Call.Settled (kind : ReaderKind) : Call → Prop
  | .put _ _ reader => reader.Settled kind
  | .putAll loaded => ∀ e ∈ loaded, e.2.Settled kind
  | _ => True

namespace Adapter

theorem build_kind (a : Adapter π) (metadata : Json) : (a.build metadata).1.kind = a.kind := by
  unfold build
  split <;> rfl

theorem build_settled {a : Adapter π} {metadata : Json} {reader : Reader}
    (hrange : metadata.InRange) (h : (a.build metadata).2 = .ok reader) :
    reader.Settled a.kind := by
  unfold build at h
  split at h
  · cases h
  · rename_i r hr
    rw [← Except.ok.inj h]
    exact Reader.ofMetadata_settled hrange hr a.access

theorem prepare_kind (a : Adapter π) (metadata : String) :
    (a.prepare metadata).1.kind = a.kind := by
  unfold prepare
  split
  · rfl
  · exact a.build_kind _

theorem prepare_settled {a : Adapter π} {metadata : String} {reader : Reader}
    (h : (a.prepare metadata).2 = .ok reader) : reader.Settled a.kind := by
  unfold prepare at h
  split at h
  · cases h
  · rename_i v hv
    exact build_settled (Json.parse_inRange hv) h

theorem loadLine_kind (a : Adapter π) (line : String) : (a.loadLine line).1.kind = a.kind := by
  unfold loadLine
  split
  · rfl
  · rename_i stored _
    have h := a.build_kind stored.metadata
    generalize a.build stored.metadata = built at h ⊢
    obtain ⟨b, e | reader⟩ := built <;> exact h

theorem loadLine_settled {a : Adapter π} {line : String} {loaded : StoredFeed × Reader}
    (h : (a.loadLine line).2 = .ok loaded) : loaded.2.Settled a.kind := by
  unfold loadLine at h
  split at h
  · cases h
  · rename_i stored hstored
    have hbuilt : ∀ reader, (a.build stored.metadata).2 = .ok reader → reader.Settled a.kind :=
      fun reader => build_settled (StoredFeed.parse_inRange hstored)
    generalize a.build stored.metadata = built at h hbuilt
    obtain ⟨b, e | reader⟩ := built
    · cases h
    · rw [← Except.ok.inj h]
      exact hbuilt reader rfl

theorem loadLines_kind (lines : List (Nat × String)) (a : Adapter π) :
    (loadLines lines a).1.kind = a.kind := by
  induction lines generalizing a with
  | nil => rfl
  | cons l rest ih =>
    obtain ⟨number, line⟩ := l
    have h := a.loadLine_kind line
    rw [loadLines]
    generalize a.loadLine line = read at h ⊢
    obtain ⟨b, e | loaded⟩ := read
    · exact (ih _).trans h
    · exact (ih b).trans h

theorem loadLines_settled (lines : List (Nat × String)) (a : Adapter π) :
    ∀ e ∈ (loadLines lines a).2, e.2.Settled a.kind := by
  induction lines generalizing a with
  | nil => exact List.forall_mem_nil _
  | cons l rest ih =>
    obtain ⟨number, line⟩ := l
    have hkind := a.loadLine_kind line
    have hloaded : ∀ loaded, (a.loadLine line).2 = .ok loaded → loaded.2.Settled a.kind :=
      fun loaded => loadLine_settled
    rw [loadLines]
    generalize a.loadLine line = read at hkind hloaded ⊢
    obtain ⟨b, e | loaded⟩ := read
    · intro d hd
      exact hkind ▸ ih (b.note .debug _) d hd
    · intro d hd
      rcases List.mem_cons.mp hd with rfl | hd
      · exact hloaded _ rfl
      · exact hkind ▸ ih b d hd

theorem readStore_kind (a : Adapter π) : a.readStore.1.kind = a.kind := by
  unfold readStore
  split
  · rfl
  · rfl
  · exact loadLines_kind _ a

theorem readStore_settled {a : Adapter π} {loaded : List (StoredFeed × Reader)}
    (h : a.readStore.2 = .ok loaded) : ∀ e ∈ loaded, e.2.Settled a.kind := by
  unfold readStore at h
  split at h
  · cases h
  · cases h
  · rw [← Except.ok.inj h]
    exact loadLines_settled _ a

theorem writeStore_kind (a : Adapter π) (text : String) : (a.writeStore text).1.kind = a.kind := by
  unfold writeStore
  split
  split <;> rfl

theorem schedule_kind (a : Adapter π) (id : String) (traced : Bool) :
    (a.schedule id traced).1.kind = a.kind := by
  unfold schedule
  split <;> rfl

theorem scheduleNext_kind (a : Adapter π) (id : String) : (a.scheduleNext id).1.kind = a.kind := by
  have h := a.schedule_kind id false
  unfold scheduleNext
  generalize a.schedule id false = scheduled at h ⊢
  obtain ⟨b, _ | e⟩ := scheduled <;> exact h

theorem remove_kind (a : Adapter π) (id : String) : (a.remove id).1.kind = a.kind := by
  unfold remove
  split <;> rfl

theorem remove_kept {a : Adapter π} (h : a.registry.Kept kind) (id : String) :
    (a.remove id).1.registry.Kept kind := by
  unfold remove
  split
  · exact h
  · rename_i registry hremoved
    exact h.of_sources (Registry.sources_remove hremoved)

end Adapter

/-- What a call does up to its next wait keeps the sources and the readers it has made. -/
theorem Call.advance_kept (c : Call) {a : Adapter π} (hsources : a.registry.Kept a.kind)
    (hc : c.Settled a.kind) :
    (c.advance a).1.kind = a.kind ∧ (c.advance a).1.registry.Kept a.kind ∧
      ∀ next ∈ (c.advance a).2, next.Settled a.kind := by
  have hnone : ∀ next ∈ (none : Option Call), next.Settled a.kind := fun _ h => by cases h
  have hplain : ∀ {next : Call}, next.Settled a.kind →
      ∀ e ∈ some next, e.Settled a.kind := fun h e he => Option.some.inj he ▸ h
  cases c with
  | put id channel reader => exact ⟨rfl, hsources.install id channel hc, hnone⟩
  | putAll loaded => exact ⟨rfl, hsources.installAll hc, hnone⟩
  | collect => exact ⟨rfl, hsources, hplain trivial⟩
  | write text =>
    exact ⟨a.writeStore_kind text, a.writeStore_registry text ▸ hsources, hnone⟩
  | scheduleEach ids =>
    cases ids with
    | nil => exact ⟨rfl, hsources, hnone⟩
    | cons id rest =>
      refine ⟨a.scheduleNext_kind id, ?_, hplain trivial⟩
      show (a.scheduleNext id).1.registry.Kept a.kind
      rw [Adapter.scheduleNext_registry]
      exact hsources.start id false a.now
  | ask request =>
    cases request with
    | create id channel metadata =>
      have hkind := a.prepare_kind metadata
      have hregistry := a.prepare_registry metadata
      have hsettled : ∀ reader, (a.prepare metadata).2 = .ok reader → reader.Settled a.kind :=
        fun reader => Adapter.prepare_settled
      simp only [advance]
      generalize a.prepare metadata = prepared at hkind hregistry hsettled ⊢
      obtain ⟨b, e | reader⟩ := prepared
      · exact ⟨hkind, hregistry ▸ hsources, hnone⟩
      · exact ⟨hkind, hregistry ▸ hsources, hplain (hsettled reader rfl)⟩
    | load =>
      have hkind := a.readStore_kind
      have hregistry := a.readStore_registry
      have hsettled : ∀ loaded, a.readStore.2 = .ok loaded → ∀ e ∈ loaded, e.2.Settled a.kind :=
        fun loaded => Adapter.readStore_settled
      simp only [advance]
      generalize a.readStore = stored at hkind hregistry hsettled ⊢
      obtain ⟨b, e | loaded⟩ := stored
      · exact ⟨hkind, hregistry ▸ hsources, hnone⟩
      · exact ⟨hkind, hregistry ▸ hsources, hplain (hsettled loaded rfl)⟩
    | delete id => exact ⟨a.remove_kind id, Adapter.remove_kept hsources id, hnone⟩
    | schedule id traced =>
      refine ⟨a.schedule_kind id traced, ?_, hnone⟩
      show (a.schedule id traced).1.registry.Kept a.kind
      rw [Adapter.schedule_registry]
      exact hsources.start id traced a.now
    | stopAll => exact ⟨rfl, hsources.of_sources (Registry.sources_stopAll _), hnone⟩
    | startAll => exact ⟨rfl, hsources, hplain trivial⟩
    | save => exact ⟨rfl, hsources, hplain trivial⟩

/-! ## Pollers -/

namespace Adapter

theorem beginReading_kept {a : Adapter π} (h : a.registry.Kept kind) (p : Nat) :
    (a.beginReading p).kind = a.kind ∧ (a.beginReading p).registry.Kept kind := by
  simp only [beginReading]
  split
  · split
    · exact ⟨rfl, h.holdSource p⟩
    · exact ⟨rfl, h⟩
  · exact ⟨rfl, h⟩

theorem finishReading_kept {a : Adapter π} (h : a.registry.Kept a.kind)
    (hfits : a.surroundings.files.Fits) (p : Nat) :
    (a.finishReading p).kind = a.kind ∧ (a.finishReading p).registry.Kept a.kind := by
  unfold finishReading
  split
  · exact ⟨rfl, h⟩
  · split
    · rename_i s _ hs
      exact ⟨rfl, h.finishReading p (Reader.read_settled (h.getElem hs).2 hfits) _⟩
    · exact ⟨rfl, h⟩

variable [Publisher π]

theorem finishPublishing_kind (a : Adapter π) (p : Nat) (q : Poller) (batch : Batch)
    (failure : Option Error) : (a.finishPublishing p q batch failure).kind = a.kind := by
  unfold finishPublishing
  cases q.traced <;> cases failure <;> rfl

theorem publishNext_kept {a : Adapter π} (h : a.registry.Kept kind) (p : Nat) :
    (a.publishNext p).kind = a.kind ∧ (a.publishNext p).registry.Kept kind := by
  unfold publishNext
  split
  · exact ⟨rfl, h⟩
  · rename_i q _
    split
    · exact ⟨finishPublishing_kind a p q _ none, finishPublishing_registry a p q _ none ▸ h⟩
    · rename_i batch topic m rest _
      have hregistry := publishMessage_registry a topic m
      have hkind : (a.publishMessage topic m).1.kind = a.kind := rfl
      generalize a.publishMessage topic m = published at hregistry hkind ⊢
      obtain ⟨b, _ | e⟩ := published
      · have hb : b.registry.Kept kind := h.of_sources (congrArg Registry.sources hregistry)
        exact ⟨hkind, hb⟩
      · have hb : b.registry.Kept kind := h.of_sources (congrArg Registry.sources hregistry)
        refine ⟨(finishPublishing_kind b p q _ (some e)).trans hkind, ?_⟩
        show (b.finishPublishing p q batch (some e)).registry.Kept kind
        rw [finishPublishing_registry]
        exact hb
    · exact ⟨rfl, h⟩

end Adapter

/-! ## Runs -/

namespace Machine

/-- The sources and the readers of the calls under way. -/
structure Kept (s : Machine π) : Prop where
  sources : s.adapter.registry.Kept s.adapter.kind
  calls : ∀ c ∈ s.calls, c.Settled s.adapter.kind

variable {s : Machine π}

theorem Kept.advance (h : s.Kept) (i : Nat) : (s.advance i).Kept := by
  unfold Machine.advance
  split
  · exact h
  · rename_i c hc
    split
    · exact h
    · obtain ⟨hkind, hsources, hnext⟩ :=
        c.advance_kept h.sources (h.calls c (List.mem_of_getElem? hc))
      generalize c.advance s.adapter = advanced at hkind hsources hnext ⊢
      obtain ⟨b, next⟩ := advanced
      dsimp only at hkind hsources hnext ⊢
      refine ⟨hkind ▸ hsources, ?_⟩
      intro d hd
      show d.Settled b.kind
      rw [hkind]
      cases next with
      | none => exact h.calls d (List.mem_of_mem_eraseIdx hd)
      | some e =>
        rcases List.mem_or_eq_of_mem_set hd with hd | rfl
        · exact h.calls d hd
        · exact hnext d rfl

/-- Pollers leave sources that are kept so, and change nothing else that matters here. -/
theorem Kept.of_adapter (h : s.Kept) {a : Adapter π} (hkind : a.kind = s.adapter.kind)
    (hsources : a.registry.Kept s.adapter.kind) : Kept { s with adapter := a } :=
  ⟨hkind ▸ hsources, fun c hc => hkind ▸ h.calls c hc⟩

variable [Publisher π]

theorem Kept.step (h : s.Kept) (hfits : s.adapter.surroundings.files.Fits) (m : Move π) :
    (s.step m).Kept := by
  cases m with
  | ask request =>
    refine ⟨h.sources, ?_⟩
    intro c hc
    rcases List.mem_append.mp hc with hc | hc
    · exact h.calls c hc
    · rw [List.mem_singleton.mp hc]
      exact trivial
  | advance i => exact h.advance i
  | tick p => exact h.of_adapter rfl (h.sources.takeTick p s.adapter.now)
  | hold p =>
    obtain ⟨hkind, hsources⟩ := Adapter.beginReading_kept h.sources p
    exact h.of_adapter hkind hsources
  | read p =>
    obtain ⟨hkind, hsources⟩ := Adapter.finishReading_kept h.sources hfits p
    exact h.of_adapter hkind hsources
  | publish p =>
    obtain ⟨hkind, hsources⟩ := Adapter.publishNext_kept h.sources p
    exact h.of_adapter hkind hsources
  | exit p => exact h.of_adapter rfl h.sources
  | outside d surroundings publisher => exact ⟨h.sources, h.calls⟩

/-- Files are shorter than memory is in the state that a run starts from and in every state that it
comes to. -/
def FitsAlong : List (Move π) → Machine π → Prop
  | [], s => s.adapter.surroundings.files.Fits
  | m :: rest, s => s.adapter.surroundings.files.Fits ∧ FitsAlong rest (s.step m)

instance : ∀ (moves : List (Move π)) (s : Machine π), Decidable (s.FitsAlong moves)
  | [], s => inferInstanceAs (Decidable s.adapter.surroundings.files.Fits)
  | m :: rest, s =>
    have := instDecidableFitsAlong rest (s.step m)
    inferInstanceAs (Decidable (_ ∧ _))

theorem Kept.run (moves : List (Move π)) (h : s.Kept) (hfits : s.FitsAlong moves) :
    (Machine.run moves s).Kept := by
  induction moves generalizing s with
  | nil => exact h
  | cons m rest ih => exact ih (h.step hfits.1 m) hfits.2

end Machine

end TableFeed
