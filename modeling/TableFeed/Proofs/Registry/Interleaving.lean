import TableFeed.Proofs.Registry.Wiring
import TableFeed.Service.Adapter

/-!
# Calls and pollers between each other

The operations of `Adapter` run to their end with nothing in between. Here they are cut at the
points where they wait: a `Call` is what one of them does next, and `Call.advance` lets it go on to
where it waits again. A `Machine` is an adapter with the calls that are under way, and a `Move` lets
one of them, or one poller, go on, or lets something outside change. A run is any list of moves;
moves that are not possible change nothing.

Only the store's text is written under a lock of its own (`Call.locks`); everything else that a call
does between two waits is one step of the registry.

* **`alone`** — a call that nothing comes between does what the operation of the adapter does.
* **`change_step`** — the crux: every move is a change of the registry.
* **`wired_run`**, **`follows_run`** — what therefore holds after every run.
-/

namespace TableFeed

variable {π : Type}

/-- A call of the registry. -/
inductive Request where
  | create (id channel metadata : String)
  | delete (id : String)
  | schedule (id : String) (traced : Bool)
  | startAll
  | stopAll
  | load
  | save
  deriving DecidableEq, Repr

/-- The call from its beginning to its end. -/
def Request.perform : Request → Adapter π → Adapter π
  | .create id channel metadata, a => (a.install id channel metadata).1
  | .delete id, a => (a.remove id).1
  | .schedule id traced, a => (a.schedule id traced).1
  | .startAll, a => a.start.1
  | .stopAll, a => a.stopAll
  | .load, a => a.load.1
  | .save, a => a.save.1

/-- Where a call is: what it does next. -/
inductive Call where
  /-- It has not begun. -/
  | ask (request : Request)
  /-- It has a reader and waits for the feeds. -/
  | put (id channel : String) (reader : Reader)
  /-- It has these things left to start. -/
  | scheduleEach (ids : List String)
  /-- It has read the store and waits for the feeds. -/
  | putAll (loaded : List (StoredFeed × Reader))
  /-- It holds the store and waits for the feeds. -/
  | collect
  /-- It holds the store and has a text to write. -/
  | write (text : String)
  deriving Repr

namespace Call

/-- It holds the store. -/
def locks : Call → Bool
  | .collect | .write _ => true
  | _ => false

/-- It goes on when the store is free. -/
def waits : Call → Bool
  | .ask .save => true
  | _ => false

/-- What a call does up to its next wait, and where it is then; nothing if it has ended. -/
def advance : Call → Adapter π → Adapter π × Option Call
  | .ask (.create id channel metadata), a =>
    match a.prepare metadata with
    | (a, .error _) => (a, none)
    | (a, .ok reader) => (a, some (.put id channel reader))
  | .put id channel reader, a => (a.put id channel reader, none)
  | .ask (.delete id), a => ((a.remove id).1, none)
  | .ask (.schedule id traced), a => ((a.schedule id traced).1, none)
  | .ask .startAll, a => (a, some (.scheduleEach a.registry.ids))
  | .scheduleEach [], a => (a, none)
  | .scheduleEach (id :: rest), a => ((a.scheduleNext id).1, some (.scheduleEach rest))
  | .ask .stopAll, a => (a.stopAll, none)
  | .ask .load, a =>
    match a.readStore with
    | (a, .error _) => (a, none)
    | (a, .ok loaded) => (a, some (.putAll loaded))
  | .putAll loaded, a => (a.putAll loaded, none)
  | .ask .save, a => (a, some .collect)
  | .collect, a => (a, some (.write a.registry.storeText))
  | .write text, a => ((a.writeStore text).1, none)

/-- So many advances of a call with nothing in between. -/
def alone : Nat → Call → Adapter π → Adapter π
  | 0, _, a => a
  | n + 1, c, a =>
    match c.advance a with
    | (a, none) => a
    | (a, some c) => alone n c a

theorem alone_scheduleEach (ids : List String) (n : Nat) (a : Adapter π) :
    alone (ids.length + 1 + n) (.scheduleEach ids) a = (Adapter.scheduleAll ids a).1 := by
  induction ids generalizing a with
  | nil =>
    rw [List.length_nil, Nat.zero_add, Nat.add_comm]
    rfl
  | cons id rest ih =>
    have hsteps : (id :: rest).length + 1 + n = (rest.length + 1 + n) + 1 := by
      rw [List.length_cons]
      omega
    rw [hsteps]
    exact ih (a.scheduleNext id).1

end Call

/-- A call that nothing comes between does what it does from its beginning to its end. -/
theorem Request.alone (request : Request) (a : Adapter π) :
    ∃ steps, ∀ more, Call.alone (steps + more) (.ask request) a = request.perform a := by
  cases request with
  | create id channel metadata =>
    refine ⟨2, fun more => ?_⟩
    rw [Nat.add_comm]
    simp only [Call.alone, Call.advance, perform, Adapter.install]
    rcases a.prepare metadata with ⟨a', _ | reader⟩ <;> rfl
  | load =>
    refine ⟨2, fun more => ?_⟩
    rw [Nat.add_comm]
    simp only [Call.alone, Call.advance, perform, Adapter.load]
    rcases a.readStore with ⟨a', _ | loaded⟩ <;> rfl
  | startAll =>
    refine ⟨a.registry.ids.length + 2, fun more => ?_⟩
    have hsteps : a.registry.ids.length + 2 + more = (a.registry.ids.length + 1 + more) + 1 := by
      omega
    rw [hsteps]
    exact Call.alone_scheduleEach a.registry.ids more a
  | save =>
    refine ⟨3, fun more => ?_⟩
    rw [Nat.add_comm]
    rfl
  | _ =>
    refine ⟨1, fun more => ?_⟩
    rw [Nat.add_comm]
    rfl

/-! ## Runs -/

/-- An adapter with the calls under way. -/
structure Machine (π : Type) where
  adapter : Adapter π
  calls : List Call := []

/-- What can happen next. -/
inductive Move (π : Type) where
  /-- Someone begins a call. -/
  | ask (request : Request)
  /-- A call goes on. -/
  | advance (call : Nat)
  /-- A poller takes a tick. -/
  | tick (poller : Nat)
  /-- A poller gets hold of its source. -/
  | hold (poller : Nat)
  /-- A poller ends its reading. -/
  | read (poller : Nat)
  /-- A poller publishes the next message, or ends its batch. -/
  | publish (poller : Nat)
  | exit (poller : Nat)
  /-- Time passes, and files, databases and the publisher are no longer what they were. -/
  | outside (d : Duration) (surroundings : Surroundings) (publisher : π)

namespace Machine

/-- An adapter without feeds and without calls. -/
def begin (a : Adapter π) : Machine π :=
  { adapter := { a with registry := {} } }

/-- The calls, with one of them at another place or ended. -/
def replaceCall (calls : List Call) (i : Nat) : Option Call → List Call
  | none => calls.eraseIdx i
  | some c => calls.set i c

/-- A call goes on, if it does not wait for a store that another one holds. -/
def advance (s : Machine π) (i : Nat) : Machine π :=
  match s.calls[i]? with
  | none => s
  | some c =>
    if c.waits && s.calls.any Call.locks then s
    else
      let (adapter, next) := c.advance s.adapter
      { adapter, calls := replaceCall s.calls i next }

variable [Publisher π]

/-- One move. -/
def step (s : Machine π) : Move π → Machine π
  | .ask request => { s with calls := s.calls ++ [.ask request] }
  | .advance i => s.advance i
  | .tick p => { s with adapter := s.adapter.takeTick p }
  | .hold p => { s with adapter := s.adapter.beginReading p }
  | .read p => { s with adapter := s.adapter.finishReading p }
  | .publish p => { s with adapter := s.adapter.publishNext p }
  | .exit p => { s with adapter := s.adapter.exit p }
  | .outside d surroundings publisher =>
    { s with adapter := { s.adapter with surroundings, publisher, now := s.adapter.now + d.nanos } }

/-- A list of moves, one after the other. -/
def run (moves : List (Move π)) (s : Machine π) : Machine π :=
  moves.foldl step s

end Machine

/-! ## What a call does to the registry -/

namespace Adapter

theorem build_registry (a : Adapter π) (metadata : Json) :
    (a.build metadata).1.registry = a.registry := by
  unfold build
  split <;> rfl

theorem prepare_registry (a : Adapter π) (metadata : String) :
    (a.prepare metadata).1.registry = a.registry := by
  unfold prepare
  split
  · rfl
  · exact build_registry a _

theorem loadLine_registry (a : Adapter π) (line : String) :
    (a.loadLine line).1.registry = a.registry := by
  unfold loadLine
  split
  · rfl
  · rename_i stored _
    have h := build_registry a stored.metadata
    split <;> simp_all

theorem loadLines_registry (lines : List (Nat × String)) (a : Adapter π) :
    (loadLines lines a).1.registry = a.registry := by
  induction lines generalizing a with
  | nil => rfl
  | cons l rest ih =>
    obtain ⟨number, line⟩ := l
    have h := loadLine_registry a line
    unfold loadLines
    split
    · rename_i a' loaded heq
      rw [heq] at h
      exact (ih a').trans h
    · rename_i a' e heq
      rw [heq] at h
      exact (ih _).trans h

theorem readStore_registry (a : Adapter π) : a.readStore.1.registry = a.registry := by
  unfold readStore
  split
  · rfl
  · rfl
  · exact loadLines_registry _ a

theorem writeStore_registry (a : Adapter π) (text : String) :
    (a.writeStore text).1.registry = a.registry := by
  unfold writeStore
  split
  split <;> rfl

theorem schedule_registry (a : Adapter π) (id : String) (traced : Bool) :
    (a.schedule id traced).1.registry = (a.registry.start id traced a.now).1 := by
  unfold schedule
  split <;> simp_all [note]

theorem scheduleNext_registry (a : Adapter π) (id : String) :
    (a.scheduleNext id).1.registry = (a.registry.start id false a.now).1 := by
  rw [← schedule_registry]
  unfold scheduleNext
  split <;> simp_all [note]

theorem change_remove (a : Adapter π) (id : String) :
    a.registry.Change (a.remove id).1.registry := by
  unfold remove
  split
  · exact .keep
  · rename_i registry h
    exact .remove id h

theorem change_finishReading (a : Adapter π) (p : Nat) :
    a.registry.Change (a.finishReading p).registry := by
  unfold finishReading
  split
  · exact .keep
  · rename_i q hq
    split
    · rename_i s hphase _
      exact .read hq hphase _ _ _
    · exact .keep

theorem change_beginReading (a : Adapter π) (p : Nat) :
    a.registry.Change (a.beginReading p).registry := by
  have hhold : a.registry.Change (a.registry.holdSource p) := .hold p
  simp only [beginReading]
  split
  · split
    · exact hhold
    · exact .keep
  · exact .keep

section Publishing

variable [Publisher π]

theorem publishMessage_registry (a : Adapter π) (topic : String) (m : Message) :
    (a.publishMessage topic m).1.registry = a.registry := by
  unfold publishMessage
  rfl

theorem finishPublishing_registry (a : Adapter π) (p : Nat) (q : Poller) (batch : Batch)
    (failure : Option Error) :
    (a.finishPublishing p q batch failure).registry = a.registry.setPhase p .waiting := by
  unfold finishPublishing
  cases q.traced <;> cases failure <;> rfl

theorem change_publishNext (a : Adapter π) (p : Nat) :
    a.registry.Change (a.publishNext p).registry := by
  unfold publishNext
  split
  · exact .keep
  · rename_i q hq
    split
    · rename_i batch hphase
      rw [finishPublishing_registry]
      exact .settle hq hphase
    · rename_i batch topic m rest hphase
      have h := publishMessage_registry a topic m
      split
      · rename_i a' e heq
        rw [heq] at h
        rw [finishPublishing_registry, h]
        exact .settle hq hphase
      · rename_i a' heq
        rw [heq] at h
        show a.registry.Change (a'.registry.setPhase p _)
        rw [h]
        exact .publish hq hphase
    · exact .keep

end Publishing

end Adapter

/-- What a call does up to its next wait is one change of the registry. -/
theorem Call.change (c : Call) (a : Adapter π) :
    a.registry.Change (c.advance a).1.registry := by
  have hsame : ∀ {a' : Adapter π}, a'.registry = a.registry →
      a.registry.Change a'.registry := fun h => h ▸ .keep
  cases c with
  | put id channel reader => exact .install id channel reader
  | putAll loaded => exact .installAll loaded
  | collect => exact .keep
  | write text => exact hsame (Adapter.writeStore_registry a text)
  | scheduleEach ids =>
    cases ids with
    | nil => exact .keep
    | cons id rest =>
      show a.registry.Change (a.scheduleNext id).1.registry
      rw [Adapter.scheduleNext_registry]
      exact .start id false a.now
  | ask request =>
    cases request with
    | create id channel metadata =>
      have h := Adapter.prepare_registry a metadata
      simp only [advance]
      generalize a.prepare metadata = prepared at h ⊢
      rcases prepared with ⟨a', _ | reader⟩ <;> exact hsame h
    | load =>
      have h := Adapter.readStore_registry a
      simp only [advance]
      generalize a.readStore = stored at h ⊢
      rcases stored with ⟨a', _ | loaded⟩ <;> exact hsame h
    | delete id => exact Adapter.change_remove a id
    | schedule id traced =>
      show a.registry.Change (a.schedule id traced).1.registry
      rw [Adapter.schedule_registry]
      exact .start id traced a.now
    | stopAll => exact .stopAll
    | startAll => exact .keep
    | save => exact .keep

namespace Machine

theorem change_advance (s : Machine π) (i : Nat) :
    s.adapter.registry.Change (s.advance i).adapter.registry := by
  unfold advance
  split
  · exact .keep
  · rename_i c _
    split
    · exact .keep
    · exact Call.change c s.adapter

variable [Publisher π]

/-- Every move is a change of the registry. -/
theorem change_step (s : Machine π) (m : Move π) :
    s.adapter.registry.Change (s.step m).adapter.registry := by
  cases m with
  | ask request => exact .keep
  | advance i => exact change_advance s i
  | tick p => exact .tick p s.adapter.now
  | hold p => exact s.adapter.change_beginReading p
  | read p => exact s.adapter.change_finishReading p
  | publish p => exact s.adapter.change_publishNext p
  | exit p => exact .exit p
  | outside d surroundings publisher => exact .keep

/-- The wiring outlives every run. -/
theorem wired_run (moves : List (Move π)) {s : Machine π} (h : s.adapter.registry.Wired) :
    (run moves s).adapter.registry.Wired := by
  induction moves generalizing s with
  | nil => exact h
  | cons m rest ih => exact ih (h.change (change_step s m))

/-- Every poller is still there after every run, and follows what it was. -/
theorem follows_run (moves : List (Move π)) (s : Machine π) :
    s.adapter.registry.Follows (run moves s).adapter.registry := by
  induction moves generalizing s with
  | nil => exact Registry.Follows.refl _
  | cons m rest ih => exact (change_step s m).follows.trans (ih (s.step m))

/-- The wiring holds after every run from an adapter without feeds. -/
theorem wired_reached (a : Adapter π) (moves : List (Move π)) :
    (run moves (begin a)).adapter.registry.Wired :=
  wired_run moves Registry.wired_empty

end Machine

end TableFeed
