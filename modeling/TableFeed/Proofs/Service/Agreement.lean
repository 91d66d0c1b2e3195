import TableFeed.Proofs.Registry.StoreText
import TableFeed.Proofs.Service.Errands
import TableFeed.Proofs.Source.Files
import TableFeed.Publishing.LogPublisher

/-!
# The store ends up agreeing with the registry

A creation or removal changes the feeds first and collects the text of the store later, so a text
may be stale by the time it is written. It is never the last one: whoever changed the feeds after it
was collected still waits for the store.

* **`Agreeing`** — the invariant. Unless a writing failed, a call has still to collect the feeds, or
  one that holds the store has a text that lists them as they are, or the file lists them and nobody
  holds a text.
* **`Agreeing.advance`** — the crux: every step of a call keeps it. At most one call holds the store,
  so the text that is written is the one the invariant speaks of.
* **`store_agrees`** — once all calls have ended, the file lists the registered things.
-/

namespace TableFeed

/-! ## What a text of the store says -/

/-- The channel of a registered thing. -/
def Registry.channel? (r : Registry) (id : String) : Option String :=
  (r.feed? id).map (·.channel)

/-- A text of the store lists the registered things: its lines are those of some things, one for
each that is registered, with its channel, and none for any other. -/
def Store.Lists (text : String) (r : Registry) : Prop :=
  ∃ l : List StoredFeed, (Store.lines text).map (·.2) = l.map (fun f => f.toJson.render) ∧
    ∀ id, (l.filter (·.id = id)).map (·.channel) = (r.channel? id).toList

namespace Registry

/-- The entries of an id among feeds in order: the one that a lookup finds. -/
theorem filter_listing {l : List (String × Feed)} (h : Ordered l) (id : String) :
    (l.filter (·.1 = id)).map (·.2.channel) = ((l.lookup id).map (·.channel)).toList := by
  induction l with
  | nil => rfl
  | cons e rest ih =>
    obtain ⟨k, f⟩ := e
    obtain ⟨hfirst, hrest⟩ := List.pairwise_cons.mp h
    rw [lookup_cons, List.filter_cons]
    by_cases hk : k = id
    · -- the ids behind this one are greater
      have hnone : rest.filter (·.1 = id) = [] := by
        refine List.filter_eq_nil_iff.mpr ?_
        intro e he heq
        exact absurd (hk.trans (of_decide_eq_true heq).symm) (ne_of_lt (hfirst e he))
      rw [if_pos (decide_eq_true hk), if_pos hk.symm, hnone]
      rfl
    · have hne : ¬ decide (k = id) = true := fun h => hk (of_decide_eq_true h)
      rw [if_neg hne, if_neg fun h => hk h.symm]
      exact ih hrest

/-- The text of a registry lists its things. -/
theorem lists_storeText {r : Registry} (h : Ordered r.feeds) : Store.Lists r.storeText r := by
  refine ⟨r.stored, Store.lines_text r.stored, fun id => ?_⟩
  have hfilter : (r.stored.filter (·.id = id)).map (·.channel) =
      (r.feeds.filter (·.1 = id)).map (·.2.channel) := by
    unfold stored
    rw [List.filter_map, List.map_map]
    rfl
  rw [hfilter]
  exact filter_listing h id

/-- Starting a poller changes no channel. -/
theorem channel?_start (r : Registry) (id : String) (traced : Bool) (now : Instant) (i : String) :
    (r.start id traced now).1.channel? i = r.channel? i := by
  have hput : ∀ {r' : Registry} {f g : Feed}, r.feed? id = some f → g.channel = f.channel →
      r'.feeds = putFeed id g r.feeds → r'.channel? i = r.channel? i := by
    intro r' f g hf hsame hfeeds
    unfold channel? feed?
    rw [hfeeds, lookup_putFeed]
    split
    · rename_i hi
      rw [hi, ← feed?, hf]
      exact congrArg some hsame
    · rfl
  have h := started r id traced now
  generalize (r.start id traced now).1 = r' at h ⊢
  cases h with
  | unknown _ => rfl
  | beyond f hf => exact hput (g := f.idle) hf rfl rfl
  | fresh f ticker hf _ => exact hput (g := { f with poller := some r.pollers.length }) hf rfl rfl

theorem channel?_of_feeds {r r' : Registry} (h : r'.feeds = r.feeds) (id : String) :
    r'.channel? id = r.channel? id := by
  unfold channel? feed?
  rw [h]

end Registry

theorem Store.Lists.congr {text : String} {r r' : Registry} (h : Store.Lists text r)
    (hsame : ∀ id, r'.channel? id = r.channel? id) : Store.Lists text r' := by
  obtain ⟨l, hlines, hentries⟩ := h
  exact ⟨l, hlines, fun id => by rw [hsame, hentries]⟩

variable {π : Type}

/-- The file of the store lists the registered things. -/
def Adapter.Listed (a : Adapter π) : Prop :=
  ∃ text, a.storeFile = .ok text ∧ Store.Lists text a.registry

namespace Adapter

theorem prepare_storeFile (a : Adapter π) (metadata : String) :
    (a.prepare metadata).1.storeFile = a.storeFile := by
  unfold prepare build
  split
  · rfl
  · split <;> rfl

theorem schedule_storeFile (a : Adapter π) (id : String) (traced : Bool) :
    (a.schedule id traced).1.storeFile = a.storeFile := by
  unfold schedule
  split <;> rfl

/-- A text that was written is read from the file of the store. -/
theorem writeStore_storeFile {a : Adapter π} {text : String} (h : (a.writeStore text).2 = none) :
    (a.writeStore text).1.storeFile = .ok text := by
  unfold writeStore at h ⊢
  generalize hwrite : a.surroundings.write a.path (Utf8.bytes text) = written at h ⊢
  obtain ⟨s, _ | cause⟩ := written
  · exact Surroundings.readText_write hwrite
  · cases h

end Adapter

namespace Errand

/-- It has still to collect the feeds. -/
def due : Errand → Bool
  | .save _ | .collect _ => true
  | _ => false

/-- It holds a text of the store. -/
def writes : Errand → Bool
  | .write .. => true
  | _ => false

/-- Getting a reader leaves the feeds and the store alone. -/
theorem advance_create (id channel metadata : String) (a : Adapter π) :
    ((create id channel metadata).advance a).1.registry = a.registry ∧
      ((create id channel metadata).advance a).1.storeFile = a.storeFile ∧
      ∀ e ∈ ((create id channel metadata).advance a).2, e.locks = false := by
  have hregistry := Adapter.prepare_registry a (Blank.trim metadata)
  have hfile := Adapter.prepare_storeFile a (Blank.trim metadata)
  simp only [advance]
  split
  · exact ⟨rfl, rfl, fun e he => by cases he⟩
  · generalize a.prepare (Blank.trim metadata) = prepared at hregistry hfile ⊢
    obtain ⟨b, e | reader⟩ := prepared
    · exact ⟨hregistry, hfile, fun e he => by cases he⟩
    · refine ⟨hregistry, hfile, fun e he => ?_⟩
      cases he
      rfl

theorem advance_remove_unknown {id : String} {a : Adapter π}
    (h : a.registry.remove? id = none) : (remove id).advance a = (a, none) := by
  simp only [advance, Adapter.remove, h]

theorem advance_remove {id : String} {a : Adapter π} {registry : Registry}
    (h : a.registry.remove? id = some registry) :
    ((remove id).advance a).2 = some (.save (.report id)) := by
  simp only [advance, Adapter.remove, h]

theorem advance_write (text : String) (rest : Rest) (a : Adapter π) :
    ((write text rest).advance a).1.registry = a.registry ∧
      ((write text rest).failure? a = none →
        ((write text rest).advance a).1.storeFile = .ok text) ∧
      ∀ e ∈ ((write text rest).advance a).2, e.locks = false := by
  have hregistry := Adapter.writeStore_registry a text
  cases rest with
  | schedule id =>
    refine ⟨hregistry, Adapter.writeStore_storeFile, fun e he => ?_⟩
    cases he
    rfl
  | report id =>
    have hfile : (a.writeStore text).2 = none → (a.writeStore text).1.storeFile = .ok text :=
      Adapter.writeStore_storeFile
    simp only [advance, failure?]
    generalize a.writeStore text = written at hregistry hfile ⊢
    obtain ⟨b, _ | cause⟩ := written
    · exact ⟨hregistry, hfile, fun e he => by cases he⟩
    · exact ⟨hregistry, hfile, fun e he => by cases he⟩

theorem locks_of_writes {e : Errand} (h : e.writes = true) : e.locks = true := by
  cases e <;> first | rfl | cases h

end Errand

namespace Errands

/-- How the store stands to the registry while calls are under way. -/
structure Agreeing (s : Errands π) : Prop where
  wired : s.adapter.registry.Wired
  /-- At most one call holds the store. -/
  single : s.calls.countP Errand.locks ≤ 1
  stored : s.failures = [] → (∃ c ∈ s.calls, c.due = true) ∨
    (∃ text rest, .write text rest ∈ s.calls ∧ Store.Lists text s.adapter.registry) ∨
    ((∀ c ∈ s.calls, c.writes = false) ∧ s.adapter.Listed)

/-! ## Steps of calls -/

/-- Putting a call elsewhere leaves those in front of it and behind it. -/
theorem replace_split {calls : List Errand} {i : Nat} {c : Errand} (h : calls[i]? = some c) :
    ∃ front behind, calls = front ++ c :: behind ∧
      ∀ next, replace calls i next = front ++ next.toList ++ behind := by
  obtain ⟨hlt, hc⟩ := List.getElem?_eq_some_iff.mp h
  refine ⟨calls.take i, calls.drop (i + 1), ?_, ?_⟩
  · rw [← hc, ← List.drop_eq_getElem_cons hlt, List.take_append_drop]
  · intro next
    cases next with
    | none =>
      show calls.eraseIdx i = _
      rw [List.eraseIdx_eq_take_drop_succ, Option.toList_none, List.append_nil]
    | some e =>
      show calls.set i e = _
      rw [List.set_eq_take_append_cons_drop, if_pos hlt, Option.toList_some, List.append_assoc]
      rfl

variable {s s' : Errands π} {front behind : List Errand} {c : Errand} {next : Option Errand}

/-- A call that holds nothing goes on to where it holds nothing; if the channels or the file of the
store have changed it has still to collect the feeds. -/
theorem Agreeing.quiet (h : s.Agreeing) (hcalls : s.calls = front ++ c :: behind)
    (hcalls' : s'.calls = front ++ next.toList ++ behind) (hc : c.locks = false)
    (hdue : c.due = false) (hnext : ∀ e ∈ next, e.locks = false)
    (hwired : s'.adapter.registry.Wired) (hfailures : s'.failures = s.failures)
    (hsame : (∃ e ∈ next, e.due = true) ∨
      ((∀ id, s'.adapter.registry.channel? id = s.adapter.registry.channel? id) ∧
        s'.adapter.storeFile = s.adapter.storeFile)) : s'.Agreeing := by
  have hwrites : c.writes = false := by
    cases hw : c.writes with
    | false => rfl
    | true => rw [Errand.locks_of_writes hw] at hc; cases hc
  -- every other call is where it was
  have hkeep : ∀ {d : Errand}, d ∈ s.calls → d ≠ c → d ∈ s'.calls := by
    intro d hd hne
    rw [hcalls] at hd
    rw [hcalls']
    rcases List.mem_append.mp hd with hd | hd
    · exact List.mem_append_left _ (List.mem_append_left _ hd)
    · exact List.mem_append_right _ ((List.mem_cons.mp hd).resolve_left hne)
  refine ⟨hwired, ?_, ?_⟩
  · have hsingle := h.single
    rw [hcalls, List.countP_append, List.countP_cons, hc] at hsingle
    have hzero : next.toList.countP Errand.locks = 0 := by
      refine List.countP_eq_zero.mpr ?_
      intro e he
      rw [hnext e (Option.mem_toList.mp he)]
      decide
    rw [hcalls', List.countP_append, List.countP_append, hzero]
    simpa using hsingle
  · intro hnone
    rw [hfailures] at hnone
    rcases hsame with ⟨e, he, hlater⟩ | ⟨hchannels, hfile⟩
    · refine Or.inl ⟨e, ?_, hlater⟩
      rw [hcalls']
      exact List.mem_append_left _ (List.mem_append_right _ (Option.mem_toList.mpr he))
    · rcases h.stored hnone with ⟨d, hd, hlater⟩ | ⟨text, rest, hd, hlists⟩ | ⟨hall, text, hread, hlists⟩
      · refine Or.inl ⟨d, hkeep hd ?_, hlater⟩
        rintro rfl
        rw [hdue] at hlater
        cases hlater
      · refine Or.inr (Or.inl ⟨text, rest, hkeep hd ?_, hlists.congr hchannels⟩)
        rintro rfl
        cases hwrites
      · refine Or.inr (Or.inr ⟨?_, text, hfile.trans hread, hlists.congr hchannels⟩)
        intro d hd
        rw [hcalls'] at hd
        have hnew : ∀ e ∈ next, e.writes = false := by
          intro e he
          cases hw : e.writes with
          | false => rfl
          | true =>
            have hlocks := hnext e he
            rw [Errand.locks_of_writes hw] at hlocks
            cases hlocks
        rcases List.mem_append.mp hd with hd | hd
        · rcases List.mem_append.mp hd with hd | hd
          · exact hall d (hcalls ▸ List.mem_append_left _ hd)
          · exact hnew d (Option.mem_toList.mp hd)
        · exact hall d (hcalls ▸ List.mem_append_right _ (List.mem_cons_of_mem _ hd))

/-- No other call holds the store beside one that does. -/
theorem Agreeing.alone (h : s.Agreeing) (hcalls : s.calls = front ++ c :: behind)
    (hc : c.locks = true) : ∀ d ∈ front ++ behind, d.locks = false := by
  have hsingle := h.single
  rw [hcalls, List.countP_append, List.countP_cons, if_pos hc] at hsingle
  have hzero : (front ++ behind).countP Errand.locks = 0 := by
    rw [List.countP_append]
    omega
  intro d hd
  exact Bool.eq_false_iff.mpr (List.countP_eq_zero.mp hzero d hd)

/-- A call that waits for the store takes it when nobody holds it. -/
theorem Agreeing.take (h : s.Agreeing) {rest : Errand.Rest}
    (hcalls : s.calls = front ++ .save rest :: behind)
    (hfree : ∀ d ∈ s.calls, d.locks = false) :
    Agreeing { s with calls := front ++ .collect rest :: behind } where
  wired := h.wired
  single := by
    have hzero : (front ++ behind).countP Errand.locks = 0 := by
      refine List.countP_eq_zero.mpr fun d hd => Bool.eq_false_iff.mp (hfree d ?_)
      rw [hcalls]
      rcases List.mem_append.mp hd with hd | hd
      · exact List.mem_append_left _ hd
      · exact List.mem_append_right _ (List.mem_cons_of_mem _ hd)
    rw [List.countP_append] at hzero
    show (front ++ _ :: behind).countP Errand.locks ≤ 1
    rw [List.countP_append, List.countP_cons]
    split <;> omega
  stored _ := Or.inl ⟨.collect rest, List.mem_append_right _ List.mem_cons_self, rfl⟩

/-- The call that holds the store collects a text that lists the feeds. -/
theorem Agreeing.collect (h : s.Agreeing) {rest : Errand.Rest}
    (hcalls : s.calls = front ++ .collect rest :: behind) :
    Agreeing { s with calls := front ++ .write s.adapter.registry.storeText rest :: behind } where
  wired := h.wired
  single := by
    have hsingle := h.single
    rw [hcalls, List.countP_append, List.countP_cons] at hsingle
    show (front ++ _ :: behind).countP Errand.locks ≤ 1
    rw [List.countP_append, List.countP_cons]
    exact hsingle
  stored _ := Or.inr (Or.inl ⟨s.adapter.registry.storeText, rest,
    List.mem_append_right _ List.mem_cons_self, Registry.lists_storeText h.wired.ordered⟩)

/-- The call that holds the store writes its text and lets go of the store. -/
theorem Agreeing.write (h : s.Agreeing) {text : String} {rest : Errand.Rest} {a : Adapter π}
    {failure : Option Error} (hcalls : s.calls = front ++ .write text rest :: behind)
    (hnext : ∀ e ∈ next, e.locks = false) (hregistry : a.registry = s.adapter.registry)
    (hwritten : failure = none → a.storeFile = .ok text) :
    Agreeing { adapter := a, calls := front ++ next.toList ++ behind,
               failures := s.failures ++ failure.toList } := by
  have halone : ∀ d ∈ front ++ next.toList ++ behind, d.locks = false := by
    intro d hd
    rcases List.mem_append.mp hd with hd | hd
    · rcases List.mem_append.mp hd with hd | hd
      · exact h.alone hcalls rfl d (List.mem_append_left _ hd)
      · exact hnext d (Option.mem_toList.mp hd)
    · exact h.alone hcalls rfl d (List.mem_append_right _ hd)
  refine ⟨hregistry ▸ h.wired, ?_, ?_⟩
  · have hzero := List.countP_eq_zero.mpr fun d hd => Bool.eq_false_iff.mp (halone d hd)
    exact hzero ▸ Nat.zero_le 1
  · intro hnone
    obtain ⟨hbefore, hnow⟩ := List.append_eq_nil_iff.mp hnone
    have hread := hwritten (Option.toList_eq_nil_iff.mp hnow)
    have hnowriter : ∀ d ∈ front ++ next.toList ++ behind, d.writes = false := by
      intro d hd
      cases hw : d.writes with
      | false => rfl
      | true =>
        have hlocks := halone d hd
        rw [Errand.locks_of_writes hw] at hlocks
        cases hlocks
    rcases h.stored hbefore with ⟨d, hd, hdue⟩ | ⟨text', rest', hd, hlists⟩ | ⟨hall, -⟩
    · -- whoever has still to collect the feeds is another call
      refine Or.inl ⟨d, ?_, hdue⟩
      rw [hcalls] at hd
      rcases List.mem_append.mp hd with hd | hd
      · exact List.mem_append_left _ (List.mem_append_left _ hd)
      · rcases List.mem_cons.mp hd with rfl | hd
        · cases hdue
        · exact List.mem_append_right _ hd
    · -- the text that lists the feeds is the one that was written, since only one call has a text
      have hsame : text' = text := by
        rw [hcalls] at hd
        have hother : ∀ d ∈ front ++ behind, d.locks = false := h.alone hcalls rfl
        rcases List.mem_append.mp hd with hd | hd
        · cases hother _ (List.mem_append_left _ hd)
        · rcases List.mem_cons.mp hd with heq | hd
          · exact (Errand.write.inj heq).1
          · cases hother _ (List.mem_append_right _ hd)
      exact Or.inr (Or.inr ⟨hnowriter, text, hread, hregistry ▸ hsame ▸ hlists⟩)
    · have hwriter := hall (.write text rest) (hcalls ▸ List.mem_append_right _ List.mem_cons_self)
      cases hwriter

/-- A call that goes on keeps what the store and the registry have to do with each other. -/
theorem Agreeing.advance (h : s.Agreeing) (i : Nat) : (s.advance i).Agreeing := by
  unfold Errands.advance
  split
  · exact h
  · rename_i c hc
    split
    · exact h
    · rename_i hwaits
      obtain ⟨front, behind, hcalls, hreplace⟩ := replace_split hc
      have hwired := h.wired.change (c.change s.adapter)
      rw [hreplace]
      cases c with
      | create id channel metadata =>
        obtain ⟨hregistry, hfile, hnext⟩ := Errand.advance_create id channel metadata s.adapter
        generalize (Errand.create id channel metadata).advance s.adapter = advanced
          at hwired hregistry hfile hnext ⊢
        have hchannels := Registry.channel?_of_feeds (congrArg Registry.feeds hregistry)
        exact h.quiet hcalls rfl rfl rfl hnext hwired (List.append_nil _)
          (Or.inr ⟨hchannels, hfile⟩)
      | remove id =>
        cases hremove : s.adapter.registry.remove? id with
        | none =>
          rw [Errand.advance_remove_unknown hremove]
          exact h.quiet hcalls rfl rfl rfl (fun e he => by cases he) h.wired (List.append_nil _)
            (Or.inr ⟨fun _ => rfl, rfl⟩)
        | some registry =>
          have hnext := Errand.advance_remove hremove
          rw [hnext]
          refine h.quiet hcalls rfl rfl rfl ?_ hwired (List.append_nil _) (Or.inl ⟨_, rfl, rfl⟩)
          intro e he
          cases he
          rfl
      | put id channel reader =>
        refine h.quiet hcalls rfl rfl rfl ?_ hwired (List.append_nil _) (Or.inl ⟨_, rfl, rfl⟩)
        intro e he
        cases he
        rfl
      | save rest =>
        have hfree : ∀ d ∈ s.calls, d.locks = false := by
          intro d hd
          cases hlocks : d.locks with
          | false => rfl
          | true => exact absurd (List.any_eq_true.mpr ⟨d, hd, hlocks⟩) hwaits
        have htaken := h.take hcalls hfree
        show Agreeing ⟨s.adapter, front ++ [_] ++ behind, s.failures ++ []⟩
        rwa [List.append_nil, List.append_assoc]
      | collect rest =>
        have hcollected := h.collect hcalls
        show Agreeing ⟨s.adapter, front ++ [_] ++ behind, s.failures ++ []⟩
        rwa [List.append_nil, List.append_assoc]
      | write text rest =>
        obtain ⟨hregistry, hfile, hnext⟩ := Errand.advance_write text rest s.adapter
        exact h.write hcalls hnext hregistry hfile
      | schedule id =>
        have hregistry := Adapter.schedule_registry s.adapter id false
        have hfile := Adapter.schedule_storeFile s.adapter id false
        have hchannels := Registry.channel?_start s.adapter.registry id false s.adapter.now
        have hnone : ∀ e ∈ (none : Option Errand), e.locks = false := fun e he => by cases he
        change (s.adapter.schedule id false).1.registry.Wired at hwired
        show Agreeing ⟨(s.adapter.schedule id false).1, front ++ [] ++ behind, s.failures ++ []⟩
        generalize (s.adapter.schedule id false).1 = a at hwired hregistry hfile ⊢
        rw [← hregistry] at hchannels
        exact h.quiet hcalls rfl rfl rfl hnone hwired (List.append_nil _)
          (Or.inr ⟨hchannels, hfile⟩)

/-! ## Runs -/

/-- A call that begins holds nothing and has changed nothing. -/
theorem Agreeing.begin (h : s.Agreeing) (hlocks : c.locks = false) :
    Agreeing { s with calls := s.calls ++ [c] } where
  wired := h.wired
  single := by
    show (s.calls ++ [c]).countP Errand.locks ≤ 1
    rw [List.countP_append, List.countP_singleton, hlocks]
    exact h.single
  stored hnone := by
    rcases h.stored hnone with ⟨d, hd, hdue⟩ | ⟨text, rest, hd, hlists⟩ | ⟨hall, hlisted⟩
    · exact Or.inl ⟨d, List.mem_append_left _ hd, hdue⟩
    · exact Or.inr (Or.inl ⟨text, rest, List.mem_append_left _ hd, hlists⟩)
    · refine Or.inr (Or.inr ⟨fun d hd => ?_, hlisted⟩)
      rcases List.mem_append.mp hd with hd | hd
      · exact hall d hd
      · rw [List.mem_singleton.mp hd]
        exact Bool.eq_false_iff.mpr fun hw => Bool.eq_false_iff.mp hlocks (Errand.locks_of_writes hw)

section Polling

variable [Publisher π]

/-- Pollers and the outside put no feed in and take none out. -/
theorem elsewhere_feeds (a : Adapter π) (m : TableFeed.Move π) :
    (elsewhere a m).registry.feeds = a.registry.feeds := by
  cases m with
  | ask request => rfl
  | advance i => rfl
  | tick p => exact (Registry.stepped_takeTick a.registry p a.now).feeds
  | hold p =>
    show (a.beginReading p).registry.feeds = _
    simp only [Adapter.beginReading]
    split
    · split
      · exact (Registry.stepped_holdSource a.registry p).feeds
      · rfl
    · rfl
  | read p =>
    show (a.finishReading p).registry.feeds = _
    unfold Adapter.finishReading
    split
    · rfl
    · rename_i q hq
      split
      · rename_i hphase _
        exact (Registry.stepped_finishReading hq hphase _ _ _).feeds
      · rfl
  | publish p =>
    show (a.publishNext p).registry.feeds = _
    unfold Adapter.publishNext
    split
    · rfl
    · rename_i q _
      split
      · rw [Adapter.finishPublishing_registry]
        rfl
      · rename_i batch topic message rest _
        have hregistry := Adapter.publishMessage_registry a topic message
        generalize a.publishMessage topic message = published at hregistry ⊢
        obtain ⟨b, _ | e⟩ := published
        · show b.registry.feeds = _
          exact congrArg Registry.feeds hregistry
        · show (b.finishPublishing p q batch (some e)).registry.feeds = _
          rw [Adapter.finishPublishing_registry]
          show b.registry.feeds = _
          exact congrArg Registry.feeds hregistry
      · rfl
  | exit p => rfl
  | outside d surroundings publisher => rfl

theorem Agreeing.step (h : s.Agreeing) (m : Move π) : (s.step m).Agreeing := by
  cases m with
  | create id channel metadata => exact h.begin rfl
  | remove id => exact h.begin rfl
  | advance i => exact h.advance i
  | other m =>
    have hfeeds := elsewhere_feeds s.adapter m
    have hchannels := Registry.channel?_of_feeds hfeeds
    simp only [Errands.step]
    split
    · rename_i hfile
      have hwired := h.wired.change (Machine.change_step { adapter := s.adapter } m)
      refine ⟨hwired, h.single, fun hnone => ?_⟩
      rcases h.stored hnone with hdue | ⟨text, rest, hd, hlists⟩ | ⟨hall, text, hread, hlists⟩
      · exact Or.inl hdue
      · exact Or.inr (Or.inl ⟨text, rest, hd, hlists.congr hchannels⟩)
      · exact Or.inr (Or.inr ⟨hall, text, hfile.trans hread, hlists.congr hchannels⟩)
    · exact h

theorem Agreeing.run (moves : List (Move π)) (h : s.Agreeing) : (Errands.run moves s).Agreeing := by
  induction moves generalizing s with
  | nil => exact h
  | cons m rest ih => exact ih (h.step m)

end Polling

end Errands

/-- Creations and removals between each other and between pollers, from any state that an adapter
comes to and in which the file of the store lists the registered things: when all of them have ended
and no writing of the store went wrong, the file lists the things that are registered then, each on
one line with its channel, and nothing else. -/
theorem store_agrees [Publisher π] (a : Adapter π) (history : List (Move π))
    (moves : List (Errands.Move π)) :
    let before := (Machine.run history (Machine.begin a)).adapter
    let s := Errands.run moves { adapter := before }
    before.Listed → s.calls = [] → s.failures = [] → s.adapter.Listed := by
  intro before s hlisted hended hwritten
  have hstart : Errands.Agreeing { adapter := before } := by
    refine ⟨Machine.wired_reached a history, Nat.zero_le 1, fun _ => ?_⟩
    exact Or.inr (Or.inr ⟨fun c hc => (List.not_mem_nil hc).elim, hlisted⟩)
  have hend : s.Agreeing := hstart.run moves
  rcases hend.stored hwritten with ⟨c, hc, -⟩ | ⟨text, rest, hc, -⟩ | ⟨-, hlists⟩
  · rw [hended] at hc
    cases hc
  · rw [hended] at hc
    cases hc
  · exact hlists

/-- An adapter whose store is empty. -/
def emptyStore : Adapter LogPublisher where
  surroundings := { files := ⟨[(["dbreader.cfg".toList], .file [])]⟩ }
  publisher := {}

/-- Two creations; the second changes the feeds while the first holds a text without it. -/
def staleText : List (Errands.Move LogPublisher) :=
  let source := "\x7b\"filename\":\"a.csv\"\x7d"
  [.create "t" "c" source, .create "u" "d" source, .advance 0, .advance 0, .advance 0, .advance 0,
    .advance 1, .advance 1, .advance 1, .advance 0, .advance 1, .advance 1, .advance 0, .advance 0,
    .advance 0]

def staleRun : Errands LogPublisher :=
  Errands.run staleText { adapter := (Machine.run [] (Machine.begin emptyStore)).adapter }

/-- The stale text is written, and then another one with both things. -/
theorem store_agrees_staleText :
    (Machine.run [] (Machine.begin emptyStore)).adapter.Listed ∧ staleRun.calls = [] ∧
      staleRun.failures = [] ∧ staleRun.adapter.registry.ids = ["t", "u"] ∧
      staleRun.adapter.Listed := by
  have hread : (Machine.run [] (Machine.begin emptyStore)).adapter.storeFile = .ok "" := rfl
  have hlisted : (Machine.run [] (Machine.begin emptyStore)).adapter.Listed :=
    ⟨"", hread, [], rfl, fun _ => rfl⟩
  have hended : staleRun.calls = [] := by decide +kernel
  have hwritten : staleRun.failures = [] := by decide +kernel
  have hids : staleRun.adapter.registry.ids = ["t", "u"] := by decide +kernel
  exact ⟨hlisted, hended, hwritten, hids,
    store_agrees emptyStore [] staleText hlisted hended hwritten⟩

end TableFeed
