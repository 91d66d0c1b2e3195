import TableFeed.Proofs.Events.Handling
import TableFeed.Proofs.Service.Deeds
import TableFeed.Publishing.LogPublisher

/-!
# Acknowledged entries and the store

An adapter gets batches of entries, one after the other. Its `Adapter.journal` is the list of all
handlings in them. An entry may be delivered any number of times, and any writing of the store may
fail. What an entry changed is meant to be in the store when the entry is acknowledged: a delivery
whose writing failed is one that failed, so that the next one writes again.

A delivery that installs writes again, since it replaces what is there. A delivery that removes does
not: the thing is gone, so the next one finds nothing to remove and is done without a writing.

* **`saved_of_handled`** — an entry that was handled, and whose handling can change anything at all,
  ends with a writing, unless it found nothing to remove.
* **`acked_saved_iff`** — the crux: between a change and the acknowledgment of its entry the store is
  written, except where the writing failed behind a removal, nothing else wrote the store since and
  the last delivery found nothing to remove.
* **`acked_unsaved`** — that is no idle exception: the store keeps a thing whose removal was
  acknowledged.
-/

namespace TableFeed

variable {π : Type}

/-- What the handling did. -/
def Handling.deeds (h : Handling (Adapter π)) : List Deed :=
  h.before.deeds h.entry

/-- A batch that arrives, after a while in which the adapter ran. -/
structure Arrival where
  pause : Duration := ⟨0⟩
  /-- What others make of the surroundings in that while, and what will go wrong with writings. -/
  meanwhile : Surroundings → Surroundings := id
  /-- The counts of failed attempts, where they are counted. -/
  attempts : Option Attempts := none
  entries : List Entry

namespace Adapter

variable [Publisher π]

/-- The adapter when a batch arrives. -/
def await (a : Adapter π) (d : Arrival) : Adapter π :=
  let a := a.elapse d.pause
  { a with surroundings := d.meanwhile a.surroundings }

/-- The handlings of all batches that arrive, in order. -/
def journal (traced : Bool) : List Arrival → Adapter π → List (Handling (Adapter π))
  | [], _ => []
  | d :: rest, a =>
    (serviceFor traced).handlings d.entries d.attempts (a.await d) ++
      journal traced rest ((serviceFor traced).deliver d.entries d.attempts (a.await d)).1

end Adapter

section Durability

variable [Publisher π] {traced : Bool} {arrivals : List Arrival} {a : Adapter π}
  {g h : Handling (Adapter π)}

namespace Adapter

/-- What the journal calls handled is what did not fail. -/
theorem journal_handled (hmem : h ∈ a.journal traced arrivals) :
    h.verdict = .handled ↔ ((serviceFor traced).process h.entry h.before).2 = none := by
  induction arrivals generalizing a with
  | nil => exact absurd hmem (by simp [journal])
  | cons d rest ih =>
    rw [journal] at hmem
    rcases List.mem_append.mp hmem with hmem | hmem
    · exact (serviceFor traced).handled_iff hmem
    · exact ih hmem

end Adapter

/-- **A handled entry is written.** If an entry was handled, and one of its deliveries changed
something, then this one ends with a writing that succeeded or found nothing to remove. -/
theorem saved_of_handled (hmem : h ∈ a.journal traced arrivals) (hhandled : h.verdict = .handled)
    (hentry : h.entry = g.entry) (hchanged : g.deeds ≠ []) :
    .saved ∈ h.deeds ∨ h.before.FindsNothing h.entry := by
  have hsucceeded := (Adapter.journal_handled hmem).mp hhandled
  rcases (Adapter.process_deeds traced h.entry h.before).2 hsucceeded with hsaved | hnothing | hnone
  · exact Or.inl hsaved
  · exact Or.inr hnothing
  · -- an entry that asks for nothing changed nothing at its other delivery either
    rw [hentry] at hnone
    exact absurd (hnone g.before) hchanged

omit [Publisher π] in
/-- Behind a change stands one writing, which failed unless it succeeded. -/
theorem since_cases {change : Deed} {since : List Deed} (hdeeds : g.deeds = change :: since) :
    change.changes = true ∧ (since = [.saved] ∨ since = [.saveFailed]) := by
  rcases g.before.deeds_cases g.entry with hnone | ⟨change', save, heq, hchange, hsave⟩
  · rw [Handling.deeds, hnone] at hdeeds
    cases hdeeds
  · rw [Handling.deeds, heq] at hdeeds
    obtain ⟨rfl, rfl⟩ := List.cons.inj hdeeds
    rcases hsave with rfl | rfl
    · exact ⟨hchange, Or.inl rfl⟩
    · exact ⟨hchange, Or.inr rfl⟩

/-- **Changes and the store.** In any run of batches, let a delivery `g` of an entry have changed a
thing, and let `h` be that delivery or a later one of the same entry, which was handled. The store was
written with success behind the change and no later than in `h`, unless this is so: the entry removes
a thing, the writing behind that failed, no handling in between wrote the store, and `h` did not find
the thing any more. What the handlings are said to do is what they did. -/
theorem acked_saved_iff (traced : Bool) (arrivals : List Arrival) (a : Adapter π)
    {before between after : List (Handling (Adapter π))} {change : Deed} {since : List Deed}
    (hrun : a.journal traced arrivals = before ++ (g :: between) ++ after)
    (hlast : (g :: between).getLast? = some h) (hentry : h.entry = g.entry)
    (hhandled : h.verdict = .handled) (hdeeds : g.deeds = change :: since) :
    (∀ x ∈ g :: between,
      Performs x.before x.deeds ((Adapter.serviceFor traced).process x.entry x.before).1) ∧
    (.saved ∈ since ++ between.flatMap Handling.deeds ↔
      ¬ ∃ id, Event.decode g.entry = .ok (.thingRemove id) ∧ since = [.saveFailed] ∧
        .saved ∉ between.dropLast.flatMap Handling.deeds ∧ h.before.registry.feed? id = none) := by
  have hmem : h ∈ a.journal traced arrivals := by
    rw [hrun]
    exact List.mem_append_left _ (List.mem_append_right _ (List.mem_of_getLast? hlast))
  have hsaved := saved_of_handled hmem hhandled hentry (by rw [hdeeds]; exact List.cons_ne_nil _ _)
  obtain ⟨hchange, hsince⟩ := since_cases hdeeds
  refine ⟨fun x _ => (x.before.process_deeds traced x.entry).1, ?_⟩
  rcases List.eq_nil_or_concat between with rfl | ⟨middle, last, rfl⟩
  · -- the delivery that changed the thing is the one that was handled
    obtain rfl : g = h := Option.some.inj hlast
    have hwritten : Deed.saved ∈ since := by
      rcases hsaved with hsaved | hnothing
      · rw [hdeeds] at hsaved
        rcases List.mem_cons.mp hsaved with rfl | hsaved
        · cases hchange
        · exact hsaved
      · have hnone := hnothing.deeds_eq
        rw [← Handling.deeds, hdeeds] at hnone
        cases hnone
    refine ⟨?_, fun _ => List.mem_append_left _ hwritten⟩
    rintro - ⟨id, -, rfl, -⟩
    simp at hwritten
  · -- it was handled later, behind all that is in the middle
    rw [List.concat_eq_append] at hlast ⊢
    rw [← List.cons_append, List.getLast?_concat] at hlast
    obtain rfl : last = h := Option.some.inj hlast
    rw [List.dropLast_concat, List.flatMap_append, List.flatMap_singleton]
    constructor
    · rintro hwritten ⟨id, hdecode, rfl, hmiddle, hgone⟩
      have hnothing : last.before.FindsNothing last.entry := ⟨id, hentry ▸ hdecode, hgone⟩
      rw [Handling.deeds, hnothing.deeds_eq, List.append_nil] at hwritten
      rcases List.mem_append.mp hwritten with hfailed | hwritten
      · simp at hfailed
      · exact hmiddle hwritten
    · intro hnot
      by_contra hunwritten
      rw [List.mem_append, List.mem_append, not_or, not_or] at hunwritten
      obtain ⟨hfirst, hmiddle, hlater⟩ := hunwritten
      rcases hsaved with hsaved | ⟨id, hdecode, hgone⟩
      · exact hlater hsaved
      · refine hnot ⟨id, hentry ▸ hdecode, ?_, hmiddle, hgone⟩
        rcases hsince with rfl | rfl
        · simp at hfirst
        · rfl

end Durability

/-! ## A removal that comes back -/

/-- An adapter with one thing, which its store has too. -/
def oneThing : Adapter LogPublisher :=
  (({ publisher := {} } : Adapter LogPublisher).put "t" "c" (.file { fileName := "a.csv" })).save.1

/-- An entry that removes the thing. -/
def removal : Entry :=
  ⟨"1-0", [("operation", "thing.remove"), ("id", "t")]⟩

/-- The entry is delivered twice, and the first time some writings go wrong. -/
def removals (faults : List (Option WriteFault)) : List Arrival :=
  [{ meanwhile := fun s => { s with faults }, entries := [removal] }, { entries := [removal] }]

/-- **A removal acknowledged and not stored.** If the writing behind the removal fails, the entry is
handled at its next delivery, which does nothing: the store is the one that has the thing. -/
theorem acked_unsaved :
    ∃ g h, oneThing.journal false (removals [some (.opening .denied)]) = [g, h] ∧
      g.entry = removal ∧ g.deeds = [.removed "t", .saveFailed] ∧
      h.entry = removal ∧ h.verdict = .handled ∧ h.deeds = [] ∧
      h.before.surroundings.files.read h.before.path =
        .ok (Utf8.bytes oneThing.registry.storeText) :=
  ⟨_, _, rfl, rfl, rfl, rfl, rfl, rfl, rfl⟩

/-- If the writing behind it succeeds, the removal is stored when it is acknowledged. -/
theorem acked_saved_removal :
    ∃ g h, oneThing.journal false (removals []) = [] ++ [g] ++ [h] ∧ g.entry = removal ∧
      g.verdict = .handled ∧ g.deeds = [.removed "t", .saved] ∧
      Performs g.before g.deeds ((Adapter.serviceFor false).process removal g.before).1 ∧
      .saved ∈ [.saved] ++ ([] : List (Handling (Adapter LogPublisher))).flatMap Handling.deeds := by
  obtain ⟨g, h, hrun, hentry, hhandled, hdeeds⟩ :
      ∃ g h, oneThing.journal false (removals []) = [] ++ [g] ++ [h] ∧ g.entry = removal ∧
        g.verdict = .handled ∧ g.deeds = [.removed "t", .saved] :=
    ⟨_, _, rfl, rfl, rfl, rfl⟩
  obtain ⟨hperforms, hsaved⟩ :=
    acked_saved_iff false (removals []) oneThing hrun rfl rfl hhandled hdeeds
  refine ⟨g, h, hrun, hentry, hhandled, hdeeds, ?_, hsaved.mpr ?_⟩
  · rw [← hentry]
    exact hperforms g List.mem_cons_self
  · rintro ⟨id, -, hfailed, -⟩
    cases hfailed

end TableFeed
