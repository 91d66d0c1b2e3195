import TableFeed.Proofs.Events.Handling
import TableFeed.Proofs.Service.Handled
import TableFeed.Proofs.Service.RoundTrip

/-!
# Redelivery converges

A batch was handled to its end, and then the last entries of it come once more. In between a replayed
entry may undo what a later one did, until that one is replayed too.

* **`HandledAll`** — a run of handled entries.
* **`HandledAll.standing?`** — the crux: how a thing stands afterwards is what the last entry that makes
  anything of it says.
* **`HandledAll.synced`** — a run that installs a thing leaves the store with all that is to be kept.
* **`redelivery_converges`** — the headline.
-/

namespace TableFeed

variable {π : Type}

/-! ## The last entry decides -/

/-- What is set again and again is in the end what it was last set to. -/
theorem foldl_getD {α β : Type} (sets : α → Option β) (l : List α) (x : β) :
    l.foldl (fun x e => (sets e).getD x) x = ((l.filterMap sets).getLast?).getD x := by
  induction l using List.reverseRecOn with
  | nil => rfl
  | append_singleton l e ih =>
    rw [List.foldl_append, List.filterMap_append, ih]
    show (sets e).getD _ = _
    cases he : sets e with
    | none => simp [he]
    | some y => simp [he]

/-- Setting by the last elements of a list once more changes nothing. -/
theorem getLast_again {α β : Type} (sets : α → Option β) {l again : List α} (h : again <:+ l)
    (x : β) :
    ((again.filterMap sets).getLast?).getD (((l.filterMap sets).getLast?).getD x) =
      ((l.filterMap sets).getLast?).getD x := by
  obtain ⟨front, rfl⟩ := h
  rw [List.filterMap_append, List.getLast?_append]
  cases (again.filterMap sets).getLast? <;> rfl

namespace Adapter

/-- The entries were handled one after the other. -/
inductive HandledAll : Adapter π → List Entry → Adapter π → Prop
  | nil (a : Adapter π) : HandledAll a [] a
  | cons {a b c : Adapter π} {e : Entry} {rest : List Entry} (halike : a.Alike b)
      (hhandled : a.Handled e b) (hrest : HandledAll b rest c) : HandledAll a (e :: rest) c

variable {a b : Adapter π} {entries : List Entry}

theorem HandledAll.alike (h : a.HandledAll entries b) : a.Alike b := by
  induction h with
  | nil a => exact Alike.refl a
  | cons halike _ _ ih => exact halike.trans ih

theorem HandledAll.wired (h : a.HandledAll entries b) (hwired : a.registry.Wired) :
    b.registry.Wired := by
  induction h with
  | nil a => exact hwired
  | cons _ hhandled _ ih => exact ih (hhandled.wired hwired)

/-- How a thing stands after entries were handled is what the last of them says that makes anything
of it. -/
theorem HandledAll.standing? (h : a.HandledAll entries b) (hwired : a.registry.Wired) (id : String) :
    b.registry.standing? id =
      ((entries.filterMap (a.makes? id)).getLast?).getD (a.registry.standing? id) := by
  rw [← foldl_getD]
  induction h with
  | nil a => rfl
  | @cons a b c e rest halike hhandled _ ih =>
    rw [ih (hhandled.wired hwired), hhandled.standing? hwired, List.foldl_cons]
    simp only [halike.makes?]

/-- Entries of which one installs a thing leave the store with all that is to be kept. -/
theorem HandledAll.synced (h : a.HandledAll entries b) (hwired : a.registry.Wired)
    (hbefore : a.Synced ∨ ∃ e ∈ entries, ∃ p, e.wish? = some (.install p)) : b.Synced := by
  induction h with
  | nil a => exact hbefore.resolve_right (by simp)
  | @cons a b c e rest halike hhandled _ ih =>
    apply ih (hhandled.wired hwired)
    rcases hbefore with hsynced | ⟨o, ho, hinstalls⟩
    · exact .inl (hhandled.synced halike hwired (.inl hsynced))
    · rcases List.mem_cons.mp ho with rfl | ho
      · exact .inl (hhandled.synced halike hwired (.inr hinstalls))
      · exact .inr ⟨o, ho, hinstalls⟩

/-! ## Batches -/

section Batches

variable [Publisher π] {traced : Bool}

theorem deliverOnce_cons {e : Entry} (rest : List Entry)
    (h : ((serviceFor traced).process e a).2 = none) :
    (serviceFor traced).deliverOnce (e :: rest) a =
      (((serviceFor traced).deliverOnce rest ((serviceFor traced).process e a).1).1,
        ((serviceFor traced).deliverOnce rest ((serviceFor traced).process e a).1).2.settle e.id
          .handled) := by
  have hattempt : (serviceFor traced).attempt e none a =
      (((serviceFor traced).process e a).1, none, .handled) := by
    unfold Service.attempt
    rcases hp : (serviceFor traced).process e a with ⟨b, _ | cause⟩
    · rfl
    · rw [hp] at h
      cases h
  unfold Service.deliverOnce
  rw [(serviceFor traced).deliver_settled rest hattempt rfl]

/-- A batch that was not abandoned handled each of its entries. -/
theorem deliverOnce_handles (entries : List Entry) (a : Adapter π)
    (h : ((serviceFor traced).deliverOnce entries a).2.abandoned = false) :
    a.HandledAll entries ((serviceFor traced).deliverOnce entries a).1 ∧
      ((serviceFor traced).deliverOnce entries a).2 = { acked := entries.map (·.id) } ∧
      ∀ e ∈ entries, ∃ b, a.Alike b ∧ b.Able e := by
  induction entries generalizing a with
  | nil => exact ⟨.nil a, rfl, List.forall_mem_nil _⟩
  | cons e rest ih =>
    have hnone : ((serviceFor traced).process e a).2 = none := by
      rcases hp : (serviceFor traced).process e a with ⟨b, _ | cause⟩
      · rfl
      · have hattempt : ∃ b, (serviceFor traced).attempt e none a = (b, none, .failed) := by
          unfold Service.attempt
          rw [hp]
          exact ⟨_, rfl⟩
        obtain ⟨b, hattempt⟩ := hattempt
        unfold Service.deliverOnce at h
        rw [(serviceFor traced).deliver_failed rest hattempt] at h
        cases h
    obtain ⟨halike, hhandled⟩ := handled_of_process hnone
    rw [deliverOnce_cons rest hnone] at h ⊢
    obtain ⟨hall, hacked, hable⟩ := ih _ h
    refine ⟨.cons halike hhandled hall, ?_, ?_⟩
    · show Delivery.settle _ _ _ = _
      rw [hacked]
      rfl
    · intro o ho
      rcases List.mem_cons.mp ho with rfl | ho
      · exact ⟨a, Alike.refl a, (process_none_iff o traced a).mp hnone⟩
      · obtain ⟨b, hb, hable⟩ := hable o ho
        exact ⟨b, halike.trans hb, hable⟩

/-- A batch is not abandoned if each entry can be handled wherever those before it lead. -/
theorem deliverOnce_completes {P : Adapter π → Prop} (entries : List Entry) (a : Adapter π)
    (hable : ∀ e ∈ entries, ∀ b, P b → b.Able e)
    (hkeeps : ∀ e ∈ entries, ∀ b c, P b → b.Alike c → b.Handled e c → P c) (h : P a) :
    ((serviceFor traced).deliverOnce entries a).2.abandoned = false ∧
      P ((serviceFor traced).deliverOnce entries a).1 := by
  induction entries generalizing a with
  | nil => exact ⟨rfl, h⟩
  | cons e rest ih =>
    -- the first entry is handled, and leads to where the rest can be
    have hnone := (process_none_iff e traced a).mpr (hable e List.mem_cons_self a h)
    obtain ⟨halike, hhandled⟩ := handled_of_process hnone
    rw [deliverOnce_cons rest hnone]
    exact ih _ (fun o ho => hable o (List.mem_cons_of_mem _ ho))
      (fun o ho => hkeeps o (List.mem_cons_of_mem _ ho))
      (hkeeps e List.mem_cons_self a _ h halike hhandled)

end Batches

/-! ## Once more -/

variable {c : Adapter π} {again : List Entry}

/-- If the last entries of a batch are handled once more, all things stand as they did. -/
theorem HandledAll.standing?_again (h : a.HandledAll entries b) (hagain : again <:+ entries)
    (h' : b.HandledAll again c) (hwired : a.registry.Wired) (id : String) :
    c.registry.standing? id = b.registry.standing? id := by
  have hmakes : b.makes? id = a.makes? id := funext fun e => h.alike.makes? id e
  rw [h'.standing? (h.wired hwired), h.standing? hwired, hmakes]
  exact getLast_again _ hagain _

/-- Entries that install nothing leave each thing that one of them removes without a feed. -/
theorem HandledAll.feed?_removed (h : a.HandledAll entries b) (hwired : a.registry.Wired)
    (hno : ∀ e ∈ entries, ∀ p, e.wish? ≠ some (.install p)) {e : Entry} (he : e ∈ entries)
    {id : String} (hwish : e.wish? = some (.remove id)) : b.registry.feed? id = none := by
  rw [← Registry.standing?_eq_none, h.standing? hwired]
  have hgone : none ∈ entries.filterMap (a.makes? id) := by
    refine List.mem_filterMap.mpr ⟨e, he, ?_⟩
    simp [Adapter.makes?, hwish]
  -- whatever the last of them makes of the thing, it does not install it
  have hall : ∀ x ∈ entries.filterMap (a.makes? id), x = none := by
    intro x hx
    obtain ⟨o, ho, hmakes⟩ := List.mem_filterMap.mp hx
    unfold Adapter.makes? at hmakes
    split at hmakes
    · rename_i p hp
      exact absurd hp (hno o ho p)
    · split at hmakes
      · exact (Option.some.inj hmakes).symm
      · cases hmakes
    · cases hmakes
  cases hlast : (entries.filterMap (a.makes? id)).getLast? with
  | none => simp [List.getLast?_eq_none_iff.mp hlast] at hgone
  | some x =>
    rw [hall x (List.mem_of_getLast? hlast)]
    rfl

section Replays

variable [Publisher π] (traced : Bool)

/-- Entries that could be handled are handled again if the store can be written. -/
theorem replay_writes (hable : ∀ e ∈ again, ∃ d, a.Alike d ∧ d.Able e) (halike : a.Alike b)
    (hwritable : b.surroundings.Writable b.path) :
    ((serviceFor traced).deliverOnce again b).2.abandoned = false := by
  refine (deliverOnce_completes (P := fun c => b.Alike c ∧ c.surroundings.Writable c.path) again b
    ?_ ?_ ⟨Alike.refl b, hwritable⟩).1
  · rintro e he c ⟨hlike, hwrites⟩
    obtain ⟨d, hd, hd_able⟩ := hable e he
    exact hd_able.again (hd.symm.trans (halike.trans hlike)) hwrites
  · rintro e - c d ⟨hlike, hwrites⟩ hnext hhandled
    refine ⟨hlike.trans hnext, ?_⟩
    rw [hnext.path]
    exact hhandled.writable hwrites

/-- Entries that install nothing and find nothing to remove are handled without a change. -/
theorem replay_idle (hable : ∀ e ∈ again, e.wish? ≠ none)
    (hno : ∀ e ∈ again, ∀ p, e.wish? ≠ some (.install p))
    (hgone : ∀ e ∈ again, ∀ id, e.wish? = some (.remove id) → b.registry.feed? id = none) :
    ((serviceFor traced).deliverOnce again b).2.abandoned = false ∧
      ((serviceFor traced).deliverOnce again b).1.registry = b.registry ∧
      ((serviceFor traced).deliverOnce again b).1.surroundings = b.surroundings := by
  refine deliverOnce_completes (P := fun c => c.registry = b.registry ∧
    c.surroundings = b.surroundings) again b ?_ ?_ ⟨rfl, rfl⟩
  · rintro e he c ⟨hregistry, -⟩
    unfold Able
    cases hwish : e.wish? with
    | none => exact absurd hwish (hable e he)
    | some wish =>
      cases wish with
      | nothing => trivial
      | install p => exact absurd hwish (hno e he p)
      | remove id =>
        intro r hremove
        simp [Registry.remove?, hregistry, hgone e he id hwish] at hremove
  · rintro e he c d ⟨hregistry, hsurroundings⟩ - hhandled
    cases hhandled with
    | nothing _ hr hs => exact ⟨hr.trans hregistry, hs.trans hsurroundings⟩
    | missing _ _ _ hr hs => exact ⟨hr.trans hregistry, hs.trans hsurroundings⟩
    | removed id hwish hremove _ =>
      simp [Registry.remove?, hregistry, hgone e he id hwish] at hremove
    | installed p _ _ hwish => exact absurd hwish (hno e he p)

/-- The replay of a batch is handled to its end. Either the store had what is to be kept and can be
written, or nothing is changed any more. -/
theorem replay_cases (hall : a.HandledAll entries b) (hagain : again <:+ entries)
    (hwired : a.registry.Wired) (hable : ∀ e ∈ entries, ∃ d, a.Alike d ∧ d.Able e)
    (hwrites : ∀ fault ∈ b.surroundings.faults, fault = none) :
    ((serviceFor traced).deliverOnce again b).2.abandoned = false ∧
      (b.Synced ∨ ((serviceFor traced).deliverOnce again b).1.surroundings = b.surroundings) := by
  have hmem : ∀ e ∈ again, e ∈ entries := fun e he => hagain.subset he
  by_cases hinstalls : ∃ e ∈ entries, ∃ p, e.wish? = some (.install p)
  · have hsynced : b.Synced := hall.synced hwired (.inr hinstalls)
    exact ⟨replay_writes traced (fun e he => hable e (hmem e he)) hall.alike ⟨hwrites, hsynced.takes⟩,
      .inl hsynced⟩
  · -- what the batch removes stays removed
    have hno : ∀ e ∈ entries, ∀ p, e.wish? ≠ some (.install p) :=
      fun e he p hp => hinstalls ⟨e, he, p, hp⟩
    have hclear : ∀ e ∈ again, e.wish? ≠ none := by
      intro e he hnone
      obtain ⟨d, -, hd⟩ := hable e (hmem e he)
      simp [Able, hnone] at hd
    obtain ⟨hdone, -, hsurroundings⟩ := replay_idle traced (b := b) hclear
      (fun e he => hno e (hmem e he))
      (fun e he id hwish => hall.feed?_removed hwired hno (hmem e he) hwish)
    exact ⟨hdone, .inr hsurroundings⟩

end Replays

end Adapter

open Adapter in
/-- **Redelivery converges.** Let a batch be handled without a failure, and then the last entries of it
once more, with the store taking what is written to it. Both deliveries are acknowledged in full, and
the second leaves the things, what the store keeps of them, the store itself, and the things that are
polled as the first one did. -/
theorem redelivery_converges [Publisher π] (a : Adapter π) (moves : List (Move π))
    {before : Adapter π} (hreached : (Machine.run moves (Machine.begin a)).adapter = before)
    (traced : Bool) {entries again : List Entry} (hagain : again <:+ entries)
    (hhandled : ((serviceFor traced).deliverOnce entries before).2.abandoned = false)
    (hwrites : ∀ fault ∈ ((serviceFor traced).deliverOnce entries before).1.surroundings.faults,
      fault = none) :
    let once := (serviceFor traced).deliverOnce entries before
    let twice := (serviceFor traced).deliverOnce again once.1
    once.2 = { acked := entries.map (·.id) } ∧ twice.2 = { acked := again.map (·.id) } ∧
      twice.1.registry.ids = once.1.registry.ids ∧
      twice.1.registry.stored = once.1.registry.stored ∧
      twice.1.storeBytes = once.1.storeBytes ∧
      ∀ id, (∃ (p : Nat) (q : Poller), twice.1.registry.pollers[p]? = some q ∧
          q.ticker.stopped = false ∧ q.thing = id) ↔
        ∃ (p : Nat) (q : Poller), once.1.registry.pollers[p]? = some q ∧
          q.ticker.stopped = false ∧ q.thing = id := by
  intro once twice
  have hwired : before.registry.Wired := hreached ▸ Machine.wired_reached a moves
  obtain ⟨hall, hacked, hable⟩ := deliverOnce_handles entries before hhandled
  obtain ⟨hcomplete, hstore⟩ := replay_cases traced hall hagain hwired hable hwrites
  obtain ⟨hreplay, hackedAgain, -⟩ := deliverOnce_handles again once.1 hcomplete
  have hwiredOnce : once.1.registry.Wired := hall.wired hwired
  have hwiredTwice : twice.1.registry.Wired := hreplay.wired hwiredOnce
  have hstanding := hall.standing?_again hagain hreplay hwired
  have hstored : twice.1.registry.stored = once.1.registry.stored :=
    Registry.stored_congr hwiredOnce.ordered hwiredTwice.ordered fun id => by rw [hstanding]
  have hbytes : twice.1.storeBytes = once.1.storeBytes := by
    unfold storeBytes
    rcases hstore with hsynced | hsurroundings
    · rw [(hreplay.synced hwiredOnce (.inl hsynced)).saved, hsynced.saved]
      exact congrArg (fun l => Except.ok (Utf8.bytes (Store.text l))) hstored
    · rw [hsurroundings, hreplay.alike.path]
  refine ⟨hacked, hackedAgain, ?_, hstored, hbytes, fun id => ?_⟩
  · rw [Registry.ids_eq, Registry.ids_eq, hstored]
  · rw [Registry.polled_iff hwiredTwice, Registry.polled_iff hwiredOnce, hstanding]

/-! ## A batch that comes back -/

/-- An entry that creates a thing. -/
def creation (id thing channel : String) : Entry :=
  ⟨id, [("operation", "thing.create"), ("id", thing), ("metadata",
    "\x7b\"type\":\"dbReader\",\"channel_id\":\"" ++ channel ++
      "\",\"db_reader_data\":\x7b\"filename\":\"a.csv\"\x7d\x7d")]⟩

/-- A thing is created, removed and created for another channel; in between comes a second thing. -/
def recreated : List Entry :=
  [creation "1-0" "t" "c", ⟨"2-0", [("operation", "thing.remove"), ("id", "t")]⟩,
    creation "3-0" "u" "c", creation "4-0" "t" "d"]

/-- An adapter that nothing has come to yet. -/
def untouched : Adapter LogPublisher := { publisher := {} }

open Adapter in
/-- All but the first entry come again, the removal with them. -/
theorem redelivery_converges_recreated :
    ((serviceFor false).deliverOnce recreated untouched).1.registry.ids = ["t", "u"] ∧
      ((serviceFor false).deliverOnce recreated untouched).2.abandoned = false ∧
      ((serviceFor false).deliverOnce recreated.tail
        ((serviceFor false).deliverOnce recreated untouched).1).2 =
          { acked := recreated.tail.map (·.id) } ∧
      ((serviceFor false).deliverOnce recreated.tail
        ((serviceFor false).deliverOnce recreated untouched).1).1.registry.stored =
          ((serviceFor false).deliverOnce recreated untouched).1.registry.stored := by
  obtain ⟨hids, hhandled, hwrites⟩ :
      ((serviceFor false).deliverOnce recreated untouched).1.registry.ids = ["t", "u"] ∧
      ((serviceFor false).deliverOnce recreated untouched).2.abandoned = false ∧
      ∀ fault ∈ ((serviceFor false).deliverOnce recreated untouched).1.surroundings.faults,
        fault = none := by decide +kernel
  have hreached : (Machine.run [] (Machine.begin untouched)).adapter = untouched := rfl
  have h := redelivery_converges _ _ hreached false (List.tail_suffix recreated) hhandled hwrites
  exact ⟨hids, hhandled, h.2.1, h.2.2.2.1⟩

end TableFeed
