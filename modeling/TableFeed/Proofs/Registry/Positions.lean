import TableFeed.Proofs.Registry.Locks

/-!
# What becomes of sources

A source has the reader that was put in and, once a poller has read, the reader that the last reading
left; its snapshot is the metadata of that reader. Pollers of feeds that were replaced or removed read
sources too, as long as they like, but their own ones.

* **`installed`**, **`completed`** — what a turn puts in, and which reading it ends; `history` collects
  this over a run.
* **`effect`** — the crux: what one turn does to sources and feeds.
* **`contents_run`**, **`feed_run`** — what every source has after a run, and which source a feed has.
* **`stored_of_departed`** — a poller whose feed was replaced or removed changes nothing that the store
  is to keep.
* **`headerPos_run`** — the position of a reader of a file never goes back.
-/

namespace TableFeed

variable {π : Type}

namespace Registry

variable {r r' : Registry}

/-- The readers of the sources with their snapshots, whoever holds them. -/
def contents (r : Registry) : List (Reader × Json) :=
  r.sources.map fun s => (s.reader, s.snapshot)

theorem length_contents (r : Registry) : r.contents.length = r.sources.length :=
  List.length_map _

theorem line_metadata (r : Registry) (e : String × Feed) :
    (r.line e).metadata = (r.contents[e.2.source]?).elim .null (·.2) := by
  simp only [line, contents, List.getElem?_map]
  cases r.sources[e.2.source]? <;> rfl

/-- The feeds stay, and so do readers and snapshots. -/
structure Quiet (r r' : Registry) : Prop where
  feeds : r'.feeds = r.feeds
  contents : r'.contents = r.contents

theorem Quiet.refl (r : Registry) : Quiet r r :=
  ⟨rfl, rfl⟩

theorem quiet_takeTick (r : Registry) (p : Nat) (now : Instant) : Quiet r (r.takeTick p now) := by
  unfold takeTick
  split
  · exact Quiet.refl r
  · split
    · split <;> exact ⟨rfl, rfl⟩
    · exact Quiet.refl r

theorem quiet_holdSource (r : Registry) (p : Nat) : Quiet r (r.holdSource p) := by
  unfold holdSource
  split
  · exact Quiet.refl r
  · rename_i q _
    split
    · rename_i s _ hs
      split
      · exact Quiet.refl r
      · refine ⟨rfl, ?_⟩
        -- only the holder is another one
        show (r.sources.set q.source _).map _ = _
        rw [List.map_set]
        obtain ⟨hlt, rfl⟩ := List.getElem?_eq_some_iff.mp hs
        have hlt' : q.source < r.contents.length := by rwa [length_contents]
        show r.contents.set q.source (r.sources[q.source].reader, r.sources[q.source].snapshot) = r.contents
        have hget : r.contents[q.source] =
            (r.sources[q.source].reader, r.sources[q.source].snapshot) := List.getElem_map _
        rw [← hget, List.set_getElem_self]
    · exact Quiet.refl r

theorem finishReading_keeps {p : Nat} {q : Poller} (hq : r.pollers[p]? = some q) (kind : ReaderKind)
    (reader : Reader) (result : Except ReadError (List Row)) :
    (r.finishReading p kind reader result).feeds = r.feeds ∧
      (r.finishReading p kind reader result).contents =
        r.contents.set q.source (reader, reader.metadata) := by
  simp only [finishReading, hq]
  -- a failure and a batch differ in what the poller does next
  cases result with
  | error e => exact ⟨rfl, List.map_set⟩
  | ok rows => exact ⟨rfl, List.map_set⟩

/-- Of the one registry's feeds some may be gone in the other, and none is new. -/
structure Sheds (r r' : Registry) : Prop where
  contents : r'.contents = r.contents
  feeds : ∀ (id : String) (f' : Feed), r'.feed? id = some f' →
    ∃ f : Feed, r.feed? id = some f ∧ f'.source = f.source ∧ f'.channel = f.channel

theorem Quiet.sheds (h : Quiet r r') : Sheds r r' where
  contents := h.contents
  feeds := by
    intro id f' hf'
    unfold feed? at hf' ⊢
    rw [h.feeds] at hf'
    exact ⟨f', hf', rfl, rfl⟩

theorem sheds_of_eq (h : r' = r) : Sheds r r' :=
  h ▸ (Quiet.refl r).sheds

theorem sheds_remove {id : String} (h : r.remove? id = some r') : Sheds r r' where
  contents := congrArg (List.map _) (sources_remove h)
  feeds _ f' hf' := ⟨f', feed?_of_remove h hf', rfl, rfl⟩

theorem sheds_start (r : Registry) (id : String) (traced : Bool) (now : Instant) :
    Sheds r (r.start id traced now).1 where
  contents := congrArg (List.map _) (sources_start r id traced now)
  feeds _ _ hf' := feed?_start hf'

theorem sheds_stopAll (r : Registry) : Sheds r r.stopAll where
  contents := congrArg (List.map _) (sources_stopAll r)
  feeds _ _ hf' := feed?_of_stopAll hf'

end Registry

/-! ## What turns do -/

/-- The readers that a visit puts in next, with their ids. -/
def Visit.installs : Visit → List (String × Reader)
  | .inside (.put id _ reader) _ => [(id, reader)]
  | .inside (.putAll loaded) _ => loaded.map fun e => (e.1.id, e.2)
  | _ => []

/-- The reading that a poller is at: its source, and the reader as the reading leaves it. -/
def Adapter.reading? (a : Adapter π) (p : Nat) : Option (Nat × Reader) :=
  match a.registry.pollers[p]? with
  | none => none
  | some q =>
    match q.phase, a.registry.sources[q.source]? with
    | .reading, some s => some (q.source, (s.reader.read a.surroundings).1)
    | _, _ => none

namespace Guarded

/-- The readers that a turn puts in, with their ids. -/
def installed (s : Guarded π) : Turn π → List (String × Reader)
  | .advance i _ =>
    match s.visits[i]? with
    | some v => if s.able v then v.installs else []
    | none => []
  | _ => []

/-- The reading that a turn ends. -/
def completed (s : Guarded π) : Turn π → Option (Nat × Reader)
  | .read p => if s.copied p then none else s.adapter.reading? p
  | _ => none

/-- The reading that a turn ends is one that a poller was at. -/
theorem completed_eq_some {s : Guarded π} {t : Turn π} {n : Nat} {reader : Reader}
    (h : s.completed t = some (n, reader)) : ∃ p q source, t = .read p ∧
      s.adapter.registry.pollers[p]? = some q ∧ n = q.source ∧
      s.adapter.registry.sources[n]? = some source ∧
      reader = (source.reader.read s.adapter.surroundings).1 := by
  cases t with
  | read p =>
    simp only [completed] at h
    split at h
    · cases h
    · unfold Adapter.reading? at h
      split at h
      · cases h
      · rename_i q hq
        split at h
        · rename_i source _ hsource
          obtain ⟨rfl, rfl⟩ := Prod.mk.inj (Option.some.inj h)
          exact ⟨p, q, source, rfl, hq, rfl, hsource, rfl⟩
        · cases h
  | _ => cases h

/-- The poller whose turn it is. -/
def Turn.poller? : Turn π → Option Nat
  | .tick p | .hold p | .read p | .publish p | .exit p => some p
  | _ => none

variable [Publisher π]

/-- What the turns of a run do, one after the other. -/
def history {α : Type} (does : Guarded π → Turn π → List α) : List (Turn π) → Guarded π → List α
  | [], _ => []
  | t :: rest, s => does s t ++ history does rest (s.step t)

theorem history_concat {α : Type} (does : Guarded π → Turn π → List α) (turns : List (Turn π))
    (t : Turn π) (s : Guarded π) :
    history does (turns ++ [t]) s = history does turns s ++ does (run turns s) t := by
  induction turns generalizing s with
  | nil => exact List.append_nil _
  | cons u rest ih =>
    show does s u ++ history does (rest ++ [t]) (s.step u) = _
    rw [ih, ← List.append_assoc]
    rfl

/-- The readers put in during a run, with their ids; the place of each is the number of its source. -/
def installations (turns : List (Turn π)) (s : Guarded π) : List (String × Reader) :=
  history installed turns s

/-- The readings ended during a run. -/
def readings (turns : List (Turn π)) (s : Guarded π) : List (Nat × Reader) :=
  history (fun s t => (s.completed t).toList) turns s

end Guarded

/-- A call that puts nothing in leaves sources alone. -/
theorem Call.sheds {c : Call} (hput : ∀ id channel reader, c ≠ .put id channel reader)
    (hputAll : ∀ loaded, c ≠ .putAll loaded) (a : Adapter π) :
    a.registry.Sheds (c.advance a).1.registry := by
  cases c.acts a with
  | keeps h => exact Registry.sheds_of_eq h
  | puts id channel reader hc _ => exact absurd hc (hput id channel reader)
  | putsAll loaded hc _ => exact absurd hc (hputAll loaded)
  | removes id _ h => exact Registry.sheds_remove h
  | starts id traced now _ h => exact h ▸ Registry.sheds_start a.registry id traced now
  | stopsAll _ h => exact h ▸ Registry.sheds_stopAll a.registry

/-- A visit puts in its readers, or it leaves sources alone. -/
theorem Visit.installs_or_sheds (v : Visit) (order : Nat) (a : Adapter π) :
    (v.installs = [] ∧ a.registry.Sheds (v.advance order a).1.registry) ∨
      ∃ loaded : List (StoredFeed × Reader), v.installs = loaded.map (fun e => (e.1.id, e.2)) ∧
        (v.advance order a).1.registry = a.registry.installAll loaded := by
  cases v with
  | inside c uses =>
    cases c with
    | put id channel reader => exact .inr ⟨[(⟨id, channel, .null⟩, reader)], rfl, rfl⟩
    | putAll loaded => exact .inr ⟨loaded, rfl, rfl⟩
    | collect => exact .inl ⟨rfl, Registry.sheds_of_eq rfl⟩
    | _ => exact .inl ⟨rfl, Call.sheds (by simp) (by simp) a⟩
  | outside c =>
    refine .inl ⟨rfl, ?_⟩
    rcases (Visit.outside c).advance_cases order a with hsame | ⟨o, ⟨ho, hfeeds⟩ | ⟨uses, ho⟩, hcall⟩
    · exact Registry.sheds_of_eq (congrArg Adapter.registry hsame)
    · -- putting something in takes the feeds
      rw [hcall]
      exact Call.sheds (by rintro id channel reader rfl; cases hfeeds)
        (by rintro loaded rfl; cases hfeeds) a
    · cases ho
  | gathering lines left => cases left <;> exact .inl ⟨rfl, Registry.sheds_of_eq rfl⟩
  | _ => exact .inl ⟨rfl, Registry.sheds_of_eq rfl⟩

namespace Adapter

theorem quiet_beginReading (a : Adapter π) (p : Nat) :
    a.registry.Quiet (a.beginReading p).registry := by
  have hhold := a.registry.quiet_holdSource p
  simp only [beginReading]
  split
  · split
    · exact hhold
    · exact Registry.Quiet.refl _
  · exact Registry.Quiet.refl _

/-- The end of a reading changes the one source that was read. -/
theorem finishReading_cases (a : Adapter π) (p : Nat) :
    (a.reading? p = none ∧ (a.finishReading p).registry = a.registry) ∨
      ∃ n reader, a.reading? p = some (n, reader) ∧ n < a.registry.sources.length ∧
        (a.finishReading p).registry.feeds = a.registry.feeds ∧
        (a.finishReading p).registry.contents =
          a.registry.contents.set n (reader, reader.metadata) := by
  cases hq : a.registry.pollers[p]? with
  | none => exact .inl ⟨by simp only [reading?, hq], by simp only [finishReading, hq]⟩
  | some q =>
    cases hs : a.registry.sources[q.source]? with
    | none => exact .inl ⟨by simp [reading?, hq, hs], by simp [finishReading, hq, hs]⟩
    | some s =>
      cases hphase : q.phase with
      | reading =>
        refine .inr ⟨q.source, (s.reader.read a.surroundings).1, ?_,
          (List.getElem?_eq_some_iff.mp hs).1, ?_⟩
        · simp only [reading?, hq, hphase, hs]
        · simp only [finishReading, hq, hphase, hs]
          exact Registry.finishReading_keeps hq a.kind _ _
      | _ => exact .inl ⟨by simp [reading?, hq, hphase], by simp [finishReading, hq, hphase]⟩

theorem quiet_publishNext [Publisher π] (a : Adapter π) (p : Nat) :
    a.registry.Quiet (a.publishNext p).registry := by
  have hphase : ∀ {r : Registry} {phase : Phase}, r = a.registry →
      a.registry.Quiet (r.setPhase p phase) := by
    rintro r phase rfl
    exact ⟨rfl, rfl⟩
  unfold publishNext
  split
  · exact Registry.Quiet.refl _
  · split
    · rw [finishPublishing_registry]
      exact hphase rfl
    · rename_i topic m _ _
      have h := publishMessage_registry a topic m
      split
      · rename_i a' e heq
        rw [heq] at h
        rw [finishPublishing_registry]
        exact hphase h
      · rename_i a' heq
        rw [heq] at h
        show a.registry.Quiet (a'.registry.setPhase p _)
        exact hphase h
    · exact Registry.Quiet.refl _

end Adapter

namespace Guarded

variable [Publisher π] {s : Guarded π}

/-- What one turn does to sources and feeds. -/
inductive Effect (s : Guarded π) (t : Turn π) : Prop
  /-- It puts nothing in and ends no reading. -/
  | sheds (hinstalled : s.installed t = []) (hcompleted : s.completed t = none)
      (h : s.adapter.registry.Sheds (s.step t).adapter.registry)
  | installs (loaded : List (StoredFeed × Reader))
      (hinstalled : s.installed t = loaded.map fun e => (e.1.id, e.2))
      (hcompleted : s.completed t = none)
      (h : (s.step t).adapter.registry = s.adapter.registry.installAll loaded)
  | reads (n : Nat) (reader : Reader) (hinstalled : s.installed t = [])
      (hcompleted : s.completed t = some (n, reader))
      (hn : n < s.adapter.registry.sources.length)
      (hfeeds : (s.step t).adapter.registry.feeds = s.adapter.registry.feeds)
      (hcontents : (s.step t).adapter.registry.contents =
        s.adapter.registry.contents.set n (reader, reader.metadata))

theorem effect (s : Guarded π) (t : Turn π) : Effect s t := by
  cases t with
  | ask request => exact .sheds rfl rfl (Registry.sheds_of_eq rfl)
  | askIds => exact .sheds rfl rfl (Registry.sheds_of_eq rfl)
  | tick p => exact .sheds rfl rfl (s.adapter.registry.quiet_takeTick p s.adapter.now).sheds
  | hold p => exact .sheds rfl rfl (s.adapter.quiet_beginReading p).sheds
  | publish p => exact .sheds rfl rfl (s.adapter.quiet_publishNext p).sheds
  | exit p => exact .sheds rfl rfl (Registry.Quiet.sheds ⟨rfl, rfl⟩)
  | outside d surroundings publisher => exact .sheds rfl rfl (Registry.sheds_of_eq rfl)
  | read p =>
    cases hcopied : s.copied p with
    | true =>
      refine .sheds rfl (by simp [completed, hcopied]) (Registry.sheds_of_eq ?_)
      simp [step, hcopied]
    | false =>
      have hstep : s.step (.read p) = { s with adapter := s.adapter.finishReading p } := by
        simp [step, hcopied]
      have hcompleted : s.completed (.read p) = s.adapter.reading? p := by
        simp [completed, hcopied]
      rcases s.adapter.finishReading_cases p with ⟨hnone, hsame⟩ | ⟨n, reader, hreading, hn, h⟩
      · exact .sheds rfl (hcompleted.trans hnone) (Registry.sheds_of_eq (by rw [hstep]; exact hsame))
      · exact .reads n reader rfl (hcompleted.trans hreading) hn (by rw [hstep]; exact h.1)
          (by rw [hstep]; exact h.2)
  | advance i order =>
    cases hv : s.visits[i]? with
    | none =>
      refine .sheds (by simp [installed, hv]) rfl (Registry.sheds_of_eq ?_)
      simp [step, advance, hv]
    | some v =>
      cases hable : s.able v with
      | false =>
        refine .sheds (by simp [installed, hv, hable]) rfl (Registry.sheds_of_eq ?_)
        simp [step, advance, hv, hable]
      | true =>
        have hstep : (s.step (.advance i order)).adapter = (v.advance order s.adapter).1 := by
          show (s.advance i order).adapter = _
          rw [advance_of_able hv hable]
        have hinstalled : s.installed (.advance i order) = v.installs := by
          simp [installed, hv, hable]
        rcases v.installs_or_sheds order s.adapter with ⟨hnone, h⟩ | ⟨loaded, hsome, h⟩
        · exact .sheds (hinstalled.trans hnone) rfl (by rw [hstep]; exact h)
        · exact .installs loaded (hinstalled.trans hsome) rfl (by rw [hstep]; exact h)

/-! ## What a run leaves in sources and feeds -/

/-- The reader that the last reading of a source left. -/
def lastReading (n : Nat) (ended : List (Nat × Reader)) : Option Reader :=
  ended.reverse.lookup n

theorem lastReading_concat (n : Nat) (ended : List (Nat × Reader)) (e : Nat × Reader) :
    lastReading n (ended ++ [e]) = if n = e.1 then some e.2 else lastReading n ended := by
  unfold lastReading
  rw [List.reverse_append, List.reverse_singleton, List.singleton_append, lookup_cons]

variable {a : Adapter π} {turns : List (Turn π)}

theorem installations_concat (turns : List (Turn π)) (t : Turn π) (s : Guarded π) :
    installations (turns ++ [t]) s = installations turns s ++ (run turns s).installed t :=
  history_concat installed turns t s

theorem readings_concat (turns : List (Turn π)) (t : Turn π) (s : Guarded π) :
    readings (turns ++ [t]) s = readings turns s ++ ((run turns s).completed t).toList :=
  history_concat _ turns t s

theorem length_sources_run (a : Adapter π) (turns : List (Turn π)) :
    (run turns (begin a)).adapter.registry.contents.length =
      (installations turns (begin a)).length := by
  induction turns using List.reverseRecOn with
  | nil => rfl
  | append_singleton turns t ih =>
    rw [run_concat, installations_concat, List.length_append, ← ih]
    cases effect (run turns (begin a)) t with
    | sheds hinstalled _ h => rw [hinstalled, h.contents, List.length_nil, Nat.add_zero]
    | installs loaded hinstalled _ h =>
      rw [hinstalled, h, Registry.length_contents, Registry.sources_installAll,
        Registry.length_contents]
      simp
    | reads n reader hinstalled _ _ _ hcontents =>
      rw [hinstalled, hcontents, List.length_set, List.length_nil, Nat.add_zero]

/-- Readings are of sources that were put in before. -/
theorem lastReading_run_none {n : Nat} (hn : (installations turns (begin a)).length ≤ n) :
    lastReading n (readings turns (begin a)) = none := by
  induction turns using List.reverseRecOn with
  | nil => rfl
  | append_singleton turns t ih =>
    rw [installations_concat, List.length_append] at hn
    rw [readings_concat]
    have hlength := length_sources_run a turns
    rw [Registry.length_contents] at hlength
    have hbefore := ih (by omega)
    cases effect (run turns (begin a)) t with
    | sheds _ hcompleted _ => rw [hcompleted, Option.toList_none, List.append_nil, hbefore]
    | installs loaded _ hcompleted _ => rw [hcompleted, Option.toList_none, List.append_nil, hbefore]
    | reads m reader _ hcompleted hm _ _ =>
      rw [hcompleted, Option.toList_some, lastReading_concat, if_neg (by simp only; omega), hbefore]

/-- After a run a source has the reader that its last reading left, or the one that was put in if there
was no reading, with the metadata of that reader for a snapshot. -/
theorem contents_run (a : Adapter π) (turns : List (Turn π)) (n : Nat) :
    (run turns (begin a)).adapter.registry.contents[n]? =
      ((installations turns (begin a))[n]?).map fun e =>
        (((lastReading n (readings turns (begin a))).getD e.2),
          ((lastReading n (readings turns (begin a))).getD e.2).metadata) := by
  induction turns using List.reverseRecOn with
  | nil => rfl
  | append_singleton turns t ih =>
    have hlength := length_sources_run a turns
    rw [run_concat, installations_concat, readings_concat]
    cases effect (run turns (begin a)) t with
    | sheds hinstalled hcompleted h =>
      rw [hinstalled, hcompleted, h.contents, Option.toList_none, List.append_nil, List.append_nil, ih]
    | reads m reader hinstalled hcompleted hm _ hcontents =>
      rw [hinstalled, hcompleted, hcontents, List.append_nil, Option.toList_some, lastReading_concat]
      rw [← Registry.length_contents] at hm
      by_cases hn : n = m
      · subst hn
        rw [List.getElem?_set_self hm, if_pos rfl, List.getElem?_eq_getElem (hlength ▸ hm)]
        rfl
      · rw [List.getElem?_set_ne (Ne.symm hn), if_neg hn, ih]
    | installs loaded hinstalled hcompleted h =>
      rw [hcompleted, Option.toList_none, List.append_nil, h, hinstalled]
      have hcontents : ((run turns (begin a)).adapter.registry.installAll loaded).contents =
          (run turns (begin a)).adapter.registry.contents ++
            loaded.map fun e => (e.2, e.2.metadata) := by
        simp only [Registry.contents, Registry.sources_installAll, List.map_append, List.map_map]
        rfl
      rw [hcontents]
      rcases Nat.lt_or_ge n (installations turns (begin a)).length with hlt | hge
      · rw [List.getElem?_append_left hlt, List.getElem?_append_left (hlength ▸ hlt), ih]
      · -- what was put in just now nobody has read
        rw [List.getElem?_append_right hge, List.getElem?_append_right (hlength ▸ hge), hlength,
          lastReading_run_none hge, List.getElem?_map, List.getElem?_map, Option.map_map]
        rfl

/-- A source is the last one that was put in under an id. -/
structure LastUnder (id : String) (n : Nat) (putIn : List (String × Reader)) : Prop where
  there : ∃ reader, putIn[n]? = some (id, reader)
  last : ∀ (j : Nat) (e : String × Reader), n < j → putIn[j]? = some e → e.1 ≠ id

theorem LastUnder.append {id : String} {n : Nat} {putIn more : List (String × Reader)}
    (h : LastUnder id n putIn) (hmore : ∀ e ∈ more, e.1 ≠ id) : LastUnder id n (putIn ++ more) := by
  obtain ⟨reader, hreader⟩ := h.there
  have hn : n < putIn.length := (List.getElem?_eq_some_iff.mp hreader).1
  refine ⟨⟨reader, by rw [List.getElem?_append_left hn, hreader]⟩, ?_⟩
  intro j e hj he
  rcases Nat.lt_or_ge j putIn.length with hlt | hge
  · rw [List.getElem?_append_left hlt] at he
    exact h.last j e hj he
  · rw [List.getElem?_append_right hge] at he
    exact hmore e (List.mem_of_getElem? he)

/-- After a run a feed has the source that was put in under its id last. -/
theorem feed_run (a : Adapter π) (turns : List (Turn π)) {id : String} {f : Feed}
    (hf : (run turns (begin a)).adapter.registry.feed? id = some f) :
    LastUnder id f.source (installations turns (begin a)) := by
  induction turns using List.reverseRecOn generalizing f with
  | nil => cases hf
  | append_singleton turns t ih =>
    have hlength := length_sources_run a turns
    rw [Registry.length_contents] at hlength
    rw [run_concat] at hf
    rw [installations_concat]
    cases effect (run turns (begin a)) t with
    | sheds hinstalled _ h =>
      obtain ⟨g, hg, hsource, -⟩ := h.feeds id f hf
      rw [hinstalled, List.append_nil, hsource]
      exact ih hg
    | reads _ _ hinstalled _ _ hfeeds _ =>
      unfold Registry.feed? at hf
      rw [hfeeds] at hf
      rw [hinstalled, List.append_nil]
      exact ih hf
    | installs loaded hinstalled _ h =>
      rw [h] at hf
      rw [hinstalled]
      rcases Registry.feed?_installAll hf with ⟨hf, hother⟩ | ⟨k, e, he, hid, -, hsource, hlast⟩
      · -- the feed stood there before, and nothing was put in under its id
        apply (ih hf).append
        intro d hd
        obtain ⟨e, he, rfl⟩ := List.mem_map.mp hd
        exact hother e he
      · -- the feed is new, and the last of those put in with its id
        rw [hlength] at hsource
        refine ⟨⟨e.2, ?_⟩, ?_⟩
        · rw [hsource, List.getElem?_append_right (Nat.le_add_right _ _), Nat.add_sub_cancel_left,
            List.getElem?_map, he, ← hid]
          rfl
        · intro j d hj hd
          rw [List.getElem?_append_right (by omega), List.getElem?_map] at hd
          obtain ⟨d', hd', rfl⟩ := Option.map_eq_some_iff.mp hd
          exact hlast _ d' (by omega) hd'

/-- **What the store is to keep of a feed.** The feed has the source that was put in under its id last,
and the metadata is of the reader that the last reading of this source left, or of the reader that was
put in if there was no reading. -/
theorem line_run (a : Adapter π) (turns : List (Turn π)) {id : String} {f : Feed}
    (hf : (run turns (begin a)).adapter.registry.feed? id = some f) :
    LastUnder id f.source (installations turns (begin a)) ∧
      ∀ reader, (installations turns (begin a))[f.source]? = some (id, reader) →
        ((run turns (begin a)).adapter.registry.line (id, f)).metadata =
          ((lastReading f.source (readings turns (begin a))).getD reader).metadata := by
  refine ⟨feed_run a turns hf, ?_⟩
  intro reader hreader
  rw [Registry.line_metadata, contents_run, hreader]
  rfl

/-! ## Pollers whose feed is gone -/

/-- What pollers do leaves the feeds, and all sources but the poller's own. -/
theorem poller_step {p : Nat} {t : Turn π} (ht : t.poller? = some p) :
    (s.step t).adapter.registry.feeds = s.adapter.registry.feeds ∧
      ∀ n, (∀ q : Poller, s.adapter.registry.pollers[p]? = some q → n ≠ q.source) →
        (s.step t).adapter.registry.contents[n]? = s.adapter.registry.contents[n]? := by
  have hquiet : s.adapter.registry.Quiet (s.step t).adapter.registry →
      (s.step t).adapter.registry.feeds = s.adapter.registry.feeds ∧
        ∀ n, (∀ q : Poller, s.adapter.registry.pollers[p]? = some q → n ≠ q.source) →
          (s.step t).adapter.registry.contents[n]? = s.adapter.registry.contents[n]? :=
    fun h => ⟨h.feeds, fun n _ => by rw [h.contents]⟩
  -- only the end of a reading touches a source, and that is the one of the poller
  cases t with
  | tick k => exact hquiet (s.adapter.registry.quiet_takeTick k s.adapter.now)
  | hold k => exact hquiet (s.adapter.quiet_beginReading k)
  | publish k => exact hquiet (s.adapter.quiet_publishNext k)
  | exit k => exact hquiet ⟨rfl, rfl⟩
  | read k =>
    obtain rfl : k = p := Option.some.inj ht
    cases effect s (.read k) with
    | sheds _ hcompleted h =>
      refine ⟨?_, fun n _ => by rw [h.contents]⟩
      simp only [step]
      split
      · rfl
      · rcases s.adapter.finishReading_cases k with ⟨-, hsame⟩ | ⟨n, reader, -, -, hfeeds, -⟩
        · exact congrArg Registry.feeds hsame
        · exact hfeeds
    | reads m reader _ hcompleted _ hfeeds hcontents =>
      refine ⟨hfeeds, ?_⟩
      intro n hn
      obtain ⟨p, q, source, hread, hq, hm, -⟩ := completed_eq_some hcompleted
      obtain rfl : k = p := Turn.read.inj hread
      rw [hcontents, List.getElem?_set_ne (by rw [hm]; exact Ne.symm (hn q hq))]
    | installs loaded hinstalled _ h =>
      obtain rfl : loaded = [] := List.map_eq_nil_iff.mp hinstalled.symm
      rw [h]
      exact ⟨rfl, fun _ _ => rfl⟩
  | _ => cases ht

/-- **A poller whose feed was replaced or removed** changes nothing that the store is to keep, wherever
it still is in its poll. -/
theorem stored_of_departed (a : Adapter π) (turns : List (Turn π)) {p : Nat} {q : Poller}
    (hq : (run turns (begin a)).adapter.registry.pollers[p]? = some q)
    (hgone : ∀ f, (run turns (begin a)).adapter.registry.feed? q.thing = some f →
      f.source ≠ q.source) {t : Turn π} (ht : t.poller? = some p) :
    ((run turns (begin a)).step t).adapter.registry.stored =
      (run turns (begin a)).adapter.registry.stored := by
  have hwired := wired_reached a turns
  have howned := owned_reached a turns
  obtain ⟨hfeeds, hcontents⟩ := poller_step (s := run turns (begin a)) ht
  rw [Registry.stored_eq, Registry.stored_eq, hfeeds]
  apply List.map_congr_left
  intro e he
  have hf : (run turns (begin a)).adapter.registry.feed? e.1 = some e.2 :=
    (Registry.lookup_eq_some_iff hwired.ordered).mpr he
  -- a feed that shares the poller's source would be the one that its thing no longer has
  have hsource : e.2.source ≠ q.source := by
    intro hshared
    have hthing : q.thing = e.1 := howned.thing p q e.1 e.2 hq hf hshared
    exact hgone e.2 (by rw [hthing]; exact hf) hshared
  have hsame := hcontents e.2.source fun o ho => by
    rw [Option.some.inj (ho.symm.trans hq)]
    exact hsource
  have hline := Registry.line_metadata ((run turns (begin a)).step t).adapter.registry e
  rw [hsame, ← Registry.line_metadata] at hline
  simp only [Registry.line] at hline ⊢
  rw [hline]

/-! ## Positions -/

/-- The position that a reader's metadata tells; only that of a file has one. -/
def headerPos : Json → Option Int
  | .object fields =>
    match Json.field? "header_pos" fields with
    | some (.int i) => some i
    | _ => none
  | _ => none

theorem headerPos_file (r : FileReader) :
    headerPos (Reader.file r).metadata = some (r.position : Int) := by
  show headerPos r.metadata = _
  unfold FileReader.metadata FileReader.optionalField
  split <;> split <;> rfl

theorem headerPos_sql (r : SqlReader) : headerPos (Reader.sql r).metadata = none := by
  rfl

theorem position_readContent (r : FileReader) (content : List UInt8) :
    r.position ≤ (r.readContent content).1.position := by
  unfold FileReader.readContent
  split
  · exact Nat.le_refl _
  · split
    · split <;> exact Nat.le_refl _
    · exact Nat.le_add_right _ _

theorem position_read (r : FileReader) (files : Files) :
    r.position ≤ (r.read files).1.position := by
  unfold FileReader.read
  split
  · exact Nat.le_refl _
  · exact position_readContent r _

/-- A turn leaves a source its file, and the position where it is or further on. -/
theorem position_step {n : Nat} {x : FileReader} {snapshot : Json} (t : Turn π)
    (hx : s.adapter.registry.contents[n]? = some (.file x, snapshot)) :
    ∃ y snapshot', (s.step t).adapter.registry.contents[n]? = some (.file y, snapshot') ∧
      x.position ≤ y.position := by
  have hn : n < s.adapter.registry.contents.length := (List.getElem?_eq_some_iff.mp hx).1
  cases effect s t with
  | sheds _ _ h => exact ⟨x, snapshot, by rw [h.contents, hx], Nat.le_refl _⟩
  | installs loaded _ _ h =>
    refine ⟨x, snapshot, ?_, Nat.le_refl _⟩
    rw [h]
    simp only [Registry.contents, Registry.sources_installAll, List.map_append]
    exact (List.getElem?_append_left hn).trans hx
  | reads m reader _ hcompleted hm _ hcontents =>
    by_cases hmn : m = n
    · -- the source was read
      subst hmn
      obtain ⟨p, q, source, -, -, -, hsource, hreader⟩ := completed_eq_some hcompleted
      have hfile : source.reader = .file x := by
        rw [Registry.contents, List.getElem?_map, hsource] at hx
        exact (Prod.mk.inj (Option.some.inj hx)).1
      rw [hfile] at hreader
      refine ⟨_, reader.metadata, ?_, position_read x s.adapter.surroundings.files⟩
      rw [hcontents, List.getElem?_set_self hn, hreader]
      rfl
    · exact ⟨x, snapshot, by rw [hcontents, List.getElem?_set_ne hmn, hx], Nat.le_refl _⟩

/-- The position that the store is to keep of a source never goes back. -/
theorem headerPos_run (a : Adapter π) (turns more : List (Turn π)) {n : Nat} {c : Reader × Json}
    (hc : (run turns (begin a)).adapter.registry.contents[n]? = some c) {i : Int}
    (hi : headerPos c.2 = some i) :
    ∃ d, (run (turns ++ more) (begin a)).adapter.registry.contents[n]? = some d ∧
      ∃ j, headerPos d.2 = some j ∧ i ≤ j := by
  -- a snapshot is the metadata of its reader
  have hsnapshot : ∀ {ts : List (Turn π)} {d : Reader × Json},
      (run ts (begin a)).adapter.registry.contents[n]? = some d → d.2 = d.1.metadata := by
    intro ts d hd
    rw [contents_run] at hd
    obtain ⟨e, -, rfl⟩ := Option.map_eq_some_iff.mp hd
    rfl
  obtain ⟨reader, snapshot⟩ := c
  rw [hsnapshot hc] at hi
  cases reader with
  | sql r =>
    rw [headerPos_sql] at hi
    cases hi
  | file x =>
    obtain rfl := Option.some.inj ((headerPos_file x).symm.trans hi)
    have hlater : ∃ y snapshot', (run (turns ++ more) (begin a)).adapter.registry.contents[n]? =
        some (.file y, snapshot') ∧ x.position ≤ y.position := by
      induction more using List.reverseRecOn with
      | nil => exact ⟨x, snapshot, by rw [List.append_nil, hc], Nat.le_refl _⟩
      | append_singleton more t ih =>
        obtain ⟨y, snapshot', hy, hle⟩ := ih
        obtain ⟨z, snapshot'', hz, hle'⟩ := position_step t hy
        exact ⟨z, snapshot'', by rw [← List.append_assoc, run_concat, hz], Nat.le_trans hle hle'⟩
    obtain ⟨y, snapshot', hy, hle⟩ := hlater
    refine ⟨_, hy, y.position, ?_, Int.ofNat_le.mpr hle⟩
    rw [hsnapshot hy, headerPos_file]

end Guarded

end TableFeed
