import Mathlib.Data.List.Permutation
import Mathlib.Data.String.Basic
import TableFeed.Proofs.Registry.Origins

/-!
# Calls at the locks

`Call` cuts a call where it waits for the store or the feeds, and what it does in between is one step.
Here it is cut at every lock that it takes. A `Visit` says where a call is among the locks: it may have
the feeds and do nothing yet, and a saving takes the snapshots one by one, in any order, while pollers
go on. `Guarded` is an adapter with its visits, and a `Turn` lets one of them go on, or a poller, or
something outside.

A poller has the lock of its source from the moment it gets hold of it to the end of its reading. It
replaces the snapshot at that end, without waiting for anything while it has the snapshot, so that this
is one step; but it waits while a saving has the snapshot.

* **`Visit.alone_ask`** — a visit that nothing comes between does what the call does from its beginning
  to its end.
* **`change_step`** — every turn is a change of the registry, so `Wired`, `Owned` and `Held` are kept.
* **`exclusive_run`** — no two visits hold one lock.
-/

namespace TableFeed

variable {π : Type}

/-- A lock. Each source has two: one of its reader and one of its snapshot. -/
inductive Lock where
  | store
  | feeds
  | source (number : Nat)
  | snapshot (number : Nat)
  deriving DecidableEq, Repr

/-- The order in which locks are taken. -/
def Lock.rank : Lock → Nat
  | .store => 0
  | .feeds => 1
  | .source _ => 2
  | .snapshot _ => 3

/-- What a call does next is done with the feeds. -/
def Call.usesFeeds : Call → Bool
  | .put .. | .putAll _ | .collect | .scheduleEach (_ :: _) => true
  | .ask (.delete _) | .ask (.schedule ..) | .ask .startAll | .ask .stopAll => true
  | _ => false

namespace Registry

/-- What the store is to keep of a feed. -/
def line (r : Registry) (e : String × Feed) : StoredFeed :=
  { id := e.1, channel := e.2.channel,
    metadata := match r.sources[e.2.source]? with
      | some s => s.snapshot
      | none => .null }

theorem stored_eq (r : Registry) : r.stored = r.feeds.map r.line := rfl

/-- One of the orders in which the feeds can be gone through. -/
def inOrder (r : Registry) (order : Nat) : List (String × Feed) :=
  r.feeds.permutations[order]?.getD r.feeds

theorem inOrder_perm (r : Registry) (order : Nat) : (r.inOrder order).Perm r.feeds := by
  unfold inOrder
  cases h : r.feeds.permutations[order]? with
  | none => exact List.Perm.refl _
  | some l => exact List.mem_permutations.mp (List.mem_of_getElem? h)

end Registry

/-- Lines in the order of their ids. -/
def Store.sorted (lines : List StoredFeed) : List StoredFeed :=
  lines.mergeSort fun x y => x.id ≤ y.id

/-- Where a call is among the locks. -/
inductive Visit where
  /-- It waits, or it does what needs no feeds. -/
  | outside (call : Call)
  /-- It has the feeds. -/
  | inside (call : Call) (uses : call.usesFeeds = true)
  /-- It has the store and the feeds, these lines already, and waits for the next snapshot. -/
  | gathering (lines : List StoredFeed) (left : List (String × Feed))
  /-- It also has the snapshot of a feed. -/
  | copying (lines : List StoredFeed) (next : String × Feed) (left : List (String × Feed))
  /-- It asks which ids there are. -/
  | asking
  /-- It has the feeds to list their ids. -/
  | listing
  deriving Repr

namespace Visit

/-- The locks that it has. -/
def holds : Visit → List Lock
  | .outside c => if c.locks then [.store] else []
  | .inside c _ => if c.locks then [.store, .feeds] else [.feeds]
  | .gathering .. => [.store, .feeds]
  | .copying _ next _ => [.store, .feeds, .snapshot next.2.source]
  | .asking => []
  | .listing => [.feeds]

/-- The lock that it waits for. -/
def wants : Visit → Option Lock
  | .outside c => if c.waits then some .store else if c.usesFeeds then some .feeds else none
  | .gathering _ (next :: _) => some (.snapshot next.2.source)
  | .asking => some .feeds
  | _ => none

/-- What it does up to the next lock, and where it is then; nothing if the call has ended. A saving
goes through the feeds in one order or another. -/
def advance (order : Nat) : Visit → Adapter π → Adapter π × Option Visit
  | .outside c, a =>
    if uses : c.usesFeeds then (a, some (.inside c uses))
    else ((c.advance a).1, (c.advance a).2.map .outside)
  | .inside .collect _, a => (a, some (.gathering [] (a.registry.inOrder order)))
  | .inside c _, a => ((c.advance a).1, (c.advance a).2.map .outside)
  | .gathering lines [], a => (a, some (.outside (.write (Store.text (Store.sorted lines)))))
  | .gathering lines (next :: left), a => (a, some (.copying lines next left))
  | .copying lines next left, a => (a, some (.gathering (lines ++ [a.registry.line next]) left))
  | .asking, a => (a, some .listing)
  | .listing, a => (a, none)

/-- So many advances with nothing in between. -/
def alone (order : Nat) : Nat → Visit → Adapter π → Adapter π
  | 0, _, a => a
  | n + 1, v, a =>
    match v.advance order a with
    | (a, none) => a
    | (a, some v) => alone order n v a

end Visit

/-! ## Runs -/

/-- An adapter with the calls at their locks. -/
structure Guarded (π : Type) where
  adapter : Adapter π
  visits : List Visit := []

/-- What can happen next. -/
inductive Guarded.Turn (π : Type) where
  /-- Someone begins a call. -/
  | ask (request : Request)
  /-- Someone begins to ask for the ids. -/
  | askIds
  /-- A call goes on; if it is a saving that has just got the feeds, in this order of them. -/
  | advance (visit order : Nat)
  /-- A poller takes a tick. -/
  | tick (poller : Nat)
  /-- A poller gets hold of its source. -/
  | hold (poller : Nat)
  /-- A poller ends its reading and replaces the snapshot. -/
  | read (poller : Nat)
  /-- A poller publishes the next message, or ends its batch. -/
  | publish (poller : Nat)
  | exit (poller : Nat)
  /-- Time passes, and files, databases and the publisher are no longer what they were. -/
  | outside (d : Duration) (surroundings : Surroundings) (publisher : π)

namespace Guarded

/-- An adapter without feeds and without calls. -/
def begin (a : Adapter π) : Guarded π :=
  { adapter := { a with registry := {} } }

/-- No call has this lock. -/
def free (s : Guarded π) (l : Lock) : Bool :=
  s.visits.all fun v => l ∉ v.holds

/-- What a visit waits for is free. -/
def able (s : Guarded π) (v : Visit) : Bool :=
  v.wants.all s.free

/-- The visits, with one of them at another place or ended. -/
def replace (visits : List Visit) (i : Nat) : Option Visit → List Visit
  | none => visits.eraseIdx i
  | some v => visits.set i v

/-- A call goes on, if what it waits for is free. -/
def advance (s : Guarded π) (i order : Nat) : Guarded π :=
  match s.visits[i]? with
  | none => s
  | some v =>
    if s.able v then
      { adapter := (v.advance order s.adapter).1
        visits := replace s.visits i (v.advance order s.adapter).2 }
    else s

/-- A call has the snapshot that a poller replaces. -/
def copied (s : Guarded π) (p : Nat) : Bool :=
  match s.adapter.registry.pollers[p]? with
  | none => false
  | some q => !s.free (.snapshot q.source)

variable [Publisher π]

/-- One turn. -/
def step (s : Guarded π) : Turn π → Guarded π
  | .ask request => { s with visits := s.visits ++ [.outside (.ask request)] }
  | .askIds => { s with visits := s.visits ++ [.asking] }
  | .advance i order => s.advance i order
  | .tick p => { s with adapter := s.adapter.takeTick p }
  | .hold p => { s with adapter := s.adapter.beginReading p }
  | .read p => if s.copied p then s else { s with adapter := s.adapter.finishReading p }
  | .publish p => { s with adapter := s.adapter.publishNext p }
  | .exit p => { s with adapter := s.adapter.exit p }
  | .outside d surroundings publisher =>
    { s with adapter := { s.adapter with surroundings, publisher, now := s.adapter.now + d.nanos } }

/-- A list of turns, one after the other. -/
def run (turns : List (Turn π)) (s : Guarded π) : Guarded π :=
  turns.foldl step s

theorem run_append (turns more : List (Turn π)) (s : Guarded π) :
    run (turns ++ more) s = run more (run turns s) :=
  List.foldl_append

theorem run_concat (turns : List (Turn π)) (t : Turn π) (s : Guarded π) :
    run (turns ++ [t]) s = (run turns s).step t :=
  run_append turns [t] s

end Guarded

/-! ## What calls do -/

/-- What a call does to the registry up to its next wait. Whatever changes it has the feeds. -/
inductive Call.Acts (c : Call) (r r' : Registry) : Prop
  | keeps (h : r' = r)
  | puts (id channel : String) (reader : Reader) (hc : c = .put id channel reader)
      (h : r' = r.install id channel reader)
  | putsAll (loaded : List (StoredFeed × Reader)) (hc : c = .putAll loaded)
      (h : r' = r.installAll loaded)
  | removes (id : String) (uses : c.usesFeeds = true) (h : r.remove? id = some r')
  | starts (id : String) (traced : Bool) (now : Instant) (uses : c.usesFeeds = true)
      (h : r' = (r.start id traced now).1)
  | stopsAll (uses : c.usesFeeds = true) (h : r' = r.stopAll)

theorem Call.acts (c : Call) (a : Adapter π) : c.Acts a.registry (c.advance a).1.registry := by
  cases c with
  | put id channel reader => exact .puts id channel reader rfl rfl
  | putAll loaded => exact .putsAll loaded rfl rfl
  | collect => exact .keeps rfl
  | write text => exact .keeps (a.writeStore_registry text)
  | scheduleEach ids =>
    cases ids with
    | nil => exact .keeps rfl
    | cons id rest => exact .starts id false a.now rfl (a.scheduleNext_registry id)
  | ask request =>
    cases request with
    | create id channel metadata =>
      have h := a.prepare_registry metadata
      simp only [advance]
      generalize a.prepare metadata = prepared at h ⊢
      rcases prepared with ⟨a', _ | reader⟩ <;> exact .keeps h
    | load =>
      have h := a.readStore_registry
      simp only [advance]
      generalize a.readStore = stored at h ⊢
      rcases stored with ⟨a', _ | loaded⟩ <;> exact .keeps h
    | delete id =>
      show Acts _ _ (a.remove id).1.registry
      unfold Adapter.remove
      split
      · exact .keeps rfl
      · rename_i registry h
        exact .removes id rfl h
    | schedule id traced => exact .starts id traced a.now rfl (a.schedule_registry id traced)
    | stopAll => exact .stopsAll rfl rfl
    | startAll => exact .keeps rfl
    | save => exact .keeps rfl

/-! ## A call that nothing comes between -/

/-- Lines of different ids in their order are the only ones in that order. -/
theorem Store.sorted_eq {lines ordered : List StoredFeed} (hperm : lines.Perm ordered)
    (hordered : ordered.Pairwise fun x y => x.id < y.id) : Store.sorted lines = ordered := by
  have hsorted : (Store.sorted lines).Pairwise fun x y => x.id ≤ y.id := by
    have htrans : ∀ x y z : StoredFeed, decide (x.id ≤ y.id) = true → decide (y.id ≤ z.id) = true →
        decide (x.id ≤ z.id) = true := by
      intro x y z hxy hyz
      simp only [decide_eq_true_eq] at *
      exact le_trans hxy hyz
    have htotal : ∀ x y : StoredFeed, (decide (x.id ≤ y.id) || decide (y.id ≤ x.id)) = true := by
      intro x y
      simp only [Bool.or_eq_true, decide_eq_true_eq]
      exact le_total x.id y.id
    exact (List.pairwise_mergeSort htrans htotal lines).imp fun hle => of_decide_eq_true hle
  have hmem : (Store.sorted lines).Perm ordered := (List.mergeSort_perm lines _).trans hperm
  have hnodup : (ordered.map (·.id)).Nodup :=
    List.pairwise_map.mpr (hordered.imp fun h => ne_of_lt h)
  refine hmem.eq_of_pairwise ?_ hsorted (hordered.imp fun h => le_of_lt h)
  -- two lines with one id are one line, for no id stands twice
  intro x y hx hy hxy hyx
  exact List.inj_on_of_nodup_map hnodup (hmem.subset hx) hy (le_antisymm hxy hyx)

/-- The lines of all feeds, gathered in any order and sorted, are what the store is to keep. -/
theorem Registry.sorted_lines {r : Registry} (h : Ordered r.feeds) {l : List (String × Feed)}
    (hperm : l.Perm r.feeds) : Store.sorted (l.map r.line) = r.stored := by
  refine Store.sorted_eq (hperm.map r.line) ?_
  rw [Registry.stored_eq]
  exact List.pairwise_map.mpr h

namespace Visit

variable (order : Nat)

/-- Inside the feeds a call does what it does without locks; a saving is cut further. -/
theorem advance_inside {c : Call} (hc : c ≠ .collect) (uses : c.usesFeeds = true) (a : Adapter π) :
    (Visit.inside c uses).advance order a = ((c.advance a).1, (c.advance a).2.map .outside) := by
  cases c with
  | collect => exact absurd rfl hc
  | _ => rfl

/-- With nothing in between a visit does what the call does up to its next wait, in one step or two. -/
theorem alone_outside {c : Call} (hc : c ≠ .collect) (a : Adapter π) : ∃ steps, ∀ more,
    alone order (steps + more) (.outside c) a =
      match c.advance a with
      | (a, none) => a
      | (a, some c) => alone order more (.outside c) a := by
  cases hfeeds : c.usesFeeds with
  | false =>
    refine ⟨1, fun more => ?_⟩
    rw [Nat.add_comm, alone, advance, dif_neg (by rw [hfeeds]; simp)]
    rcases c.advance a with ⟨a', _ | c'⟩ <;> rfl
  | true =>
    refine ⟨2, fun more => ?_⟩
    rw [Nat.add_comm, alone, advance, dif_pos hfeeds]
    show alone order (more + 1) (.inside c hfeeds) a = _
    rw [alone, advance_inside order hc]
    rcases c.advance a with ⟨a', _ | c'⟩ <;> rfl

theorem alone_gathering (left : List (String × Feed)) (lines : List StoredFeed) (more : Nat)
    (a : Adapter π) :
    alone order (2 * left.length + 1 + more) (.gathering lines left) a =
      alone order more
        (.outside (.write (Store.text (Store.sorted (lines ++ left.map a.registry.line))))) a := by
  induction left generalizing lines with
  | nil =>
    rw [List.map_nil, List.append_nil, List.length_nil, Nat.mul_zero, Nat.zero_add, Nat.add_comm]
    rfl
  | cons next left ih =>
    have hsteps : 2 * (next :: left).length + 1 + more = (2 * left.length + 1 + more) + 1 + 1 := by
      rw [List.length_cons]
      omega
    rw [hsteps]
    show alone order (2 * left.length + 1 + more) (.gathering (lines ++ [a.registry.line next]) left) a
      = _
    rw [ih, List.append_assoc]
    rfl

/-- With nothing in between a saving gathers what the store is to keep, whatever order it goes
through the feeds in. -/
theorem alone_collect {a : Adapter π} (hord : Registry.Ordered a.registry.feeds) : ∃ steps, ∀ more,
    alone order (steps + more) (.outside .collect) a =
      alone order more (.outside (.write a.registry.storeText)) a := by
  refine ⟨2 + (2 * (a.registry.inOrder order).length + 1), fun more => ?_⟩
  have hsteps : 2 + (2 * (a.registry.inOrder order).length + 1) + more =
      (2 * (a.registry.inOrder order).length + 1 + more) + 1 + 1 := by
    omega
  rw [hsteps]
  show alone order (2 * (a.registry.inOrder order).length + 1 + more)
    (.gathering [] (a.registry.inOrder order)) a = _
  rw [alone_gathering, List.nil_append,
    Registry.sorted_lines hord (a.registry.inOrder_perm order)]
  rfl

theorem alone_scheduleEach (ids : List String) (a : Adapter π) : ∃ steps, ∀ more,
    alone order (steps + more) (.outside (.scheduleEach ids)) a = (Adapter.scheduleAll ids a).1 := by
  induction ids generalizing a with
  | nil => exact alone_outside order (by simp) a
  | cons id rest ih =>
    obtain ⟨steps, hsteps⟩ := alone_outside order (c := .scheduleEach (id :: rest)) (by simp) a
    obtain ⟨later, hlater⟩ := ih (a.scheduleNext id).1
    refine ⟨steps + later, fun more => ?_⟩
    rw [Nat.add_assoc, hsteps]
    exact hlater more

/-- A visit that nothing comes between does what the call does from its beginning to its end. -/
theorem alone_ask (request : Request) {a : Adapter π} (hord : Registry.Ordered a.registry.feeds) :
    ∃ steps, ∀ more, alone order (steps + more) (.outside (.ask request)) a = request.perform a := by
  obtain ⟨steps, hsteps⟩ := alone_outside order (c := .ask request) (by simp) a
  cases request with
  | create id channel metadata =>
    simp only [Call.advance] at hsteps
    simp only [Request.perform, Adapter.install]
    rcases hprepared : a.prepare metadata with ⟨a', _ | reader⟩
    · exact ⟨steps, fun more => by rw [hsteps, hprepared]⟩
    · obtain ⟨later, hlater⟩ := alone_outside order (c := .put id channel reader) (by simp) a'
      exact ⟨steps + later, fun more => by rw [Nat.add_assoc, hsteps, hprepared]; exact hlater more⟩
  | load =>
    simp only [Call.advance] at hsteps
    simp only [Request.perform, Adapter.load]
    rcases hstore : a.readStore with ⟨a', _ | loaded⟩
    · exact ⟨steps, fun more => by rw [hsteps, hstore]⟩
    · obtain ⟨later, hlater⟩ := alone_outside order (c := .putAll loaded) (by simp) a'
      exact ⟨steps + later, fun more => by rw [Nat.add_assoc, hsteps, hstore]; exact hlater more⟩
  | startAll =>
    obtain ⟨later, hlater⟩ := alone_scheduleEach order a.registry.ids a
    exact ⟨steps + later, fun more => by rw [Nat.add_assoc, hsteps]; exact hlater more⟩
  | save =>
    -- the store is taken, the text gathered and then written
    obtain ⟨gather, hgather⟩ := alone_collect order hord
    obtain ⟨later, hlater⟩ := alone_outside order (c := .write a.registry.storeText) (by simp) a
    refine ⟨steps + (gather + later), fun more => ?_⟩
    rw [Nat.add_assoc, hsteps]
    show alone order (gather + later + more) (.outside .collect) a = _
    rw [Nat.add_assoc, hgather]
    exact hlater more
  | delete id => exact ⟨steps, hsteps⟩
  | schedule id traced => exact ⟨steps, hsteps⟩
  | stopAll => exact ⟨steps, hsteps⟩

/-! ## What every turn keeps -/

/-- A visit goes from one lock to the next without touching anything, or it does what its call does. -/
theorem advance_cases (v : Visit) (order : Nat) (a : Adapter π) :
    (v.advance order a).1 = a ∨ ∃ c,
      (v = .outside c ∧ c.usesFeeds = false ∨ ∃ uses, v = .inside c uses) ∧
        (v.advance order a).1 = (c.advance a).1 := by
  cases v with
  | outside c =>
    cases hfeeds : c.usesFeeds with
    | true => exact .inl (by simp [advance, hfeeds])
    | false => exact .inr ⟨c, .inl ⟨rfl, hfeeds⟩, by simp [advance, hfeeds]⟩
  | inside c uses =>
    by_cases hc : c = .collect
    · subst hc
      exact .inl rfl
    · exact .inr ⟨c, .inr ⟨uses, rfl⟩, by rw [advance_inside order hc]⟩
  | gathering lines left => cases left <;> exact .inl rfl
  | _ => exact .inl rfl

/-- What a visit does up to the next lock is one change of the registry. -/
theorem change (v : Visit) (order : Nat) (a : Adapter π) :
    a.registry.Change (v.advance order a).1.registry := by
  rcases v.advance_cases order a with hsame | ⟨c, -, hcall⟩
  · rw [hsame]
    exact .keep
  · rw [hcall]
    exact c.change a

/-- A call that goes on without the feeds gets the store if it waited for it, and otherwise keeps what
it has. -/
theorem locks_advance {c c' : Call} {a : Adapter π} (h : (c.advance a).2 = some c')
    (hlocks : c'.locks = true) : c.locks = true ∨ c.waits = true := by
  cases c with
  | ask request =>
    cases request with
    | save => exact .inr rfl
    | create id channel metadata =>
      simp only [Call.advance] at h
      split at h
      · cases h
      · rw [← Option.some.inj h] at hlocks
        cases hlocks
    | load =>
      simp only [Call.advance] at h
      split at h
      · cases h
      · rw [← Option.some.inj h] at hlocks
        cases hlocks
    | startAll =>
      rw [← Option.some.inj h] at hlocks
      cases hlocks
    | _ => cases h
  | scheduleEach ids =>
    cases ids with
    | nil => cases h
    | cons id rest =>
      rw [← Option.some.inj h] at hlocks
      cases hlocks
  | collect => exact .inl rfl
  | _ => cases h

/-- What is done with the feeds does not wait for the store. -/
theorem waits_of_uses {c : Call} (uses : c.usesFeeds = true) : c.waits = false := by
  cases c with
  | ask request =>
    cases request with
    | save => cases uses
    | _ => rfl
  | _ => rfl

theorem mem_holds_outside {c : Call} {l : Lock} :
    l ∈ (Visit.outside c).holds ↔ l = .store ∧ c.locks = true := by
  cases hlocks : c.locks <;> simp [holds, hlocks]

theorem mem_holds_inside {c : Call} {uses : c.usesFeeds = true} {l : Lock} :
    l ∈ (Visit.inside c uses).holds ↔ l = .feeds ∨ l = .store ∧ c.locks = true := by
  cases hlocks : c.locks <;> simp [holds, hlocks, or_comm]

/-- A visit that goes on has no lock that it did not have or wait for. -/
theorem holds_advance {v v' : Visit} {order : Nat} {a : Adapter π} {l : Lock}
    (h : (v.advance order a).2 = some v') (hl : l ∈ v'.holds) : l ∈ v.holds ∨ v.wants = some l := by
  cases v with
  | outside c =>
    simp only [advance] at h
    split at h
    · -- it gets the feeds
      rename_i uses
      obtain rfl := Option.some.inj h
      rcases mem_holds_inside.mp hl with rfl | hstore
      · exact .inr (by simp [wants, waits_of_uses uses, uses])
      · exact .inl (mem_holds_outside.mpr hstore)
    · obtain ⟨c', hc', rfl⟩ := Option.map_eq_some_iff.mp h
      obtain ⟨rfl, hlocks⟩ := mem_holds_outside.mp hl
      rcases locks_advance hc' hlocks with hbefore | hwaits
      · exact .inl (mem_holds_outside.mpr ⟨rfl, hbefore⟩)
      · exact .inr (by simp [wants, hwaits])
  | inside c uses =>
    by_cases hc : c = .collect
    · subst hc
      obtain rfl := Option.some.inj h
      exact .inl hl
    · -- it leaves the feeds, and may keep the store
      rw [advance_inside order hc] at h
      obtain ⟨c', hc', rfl⟩ := Option.map_eq_some_iff.mp h
      obtain ⟨rfl, hlocks⟩ := mem_holds_outside.mp hl
      rcases locks_advance hc' hlocks with hbefore | hwaits
      · exact .inl (mem_holds_inside.mpr (.inr ⟨rfl, hbefore⟩))
      · rw [waits_of_uses uses] at hwaits
        cases hwaits
  | gathering lines left =>
    cases left with
    | nil =>
      obtain rfl := Option.some.inj h
      exact .inl (List.mem_cons.mpr (.inl (List.mem_singleton.mp hl)))
    | cons next left =>
      obtain rfl := Option.some.inj h
      simp only [holds, List.mem_cons, List.not_mem_nil, or_false] at hl ⊢
      rcases hl with rfl | rfl | rfl
      · exact .inl (.inl rfl)
      · exact .inl (.inr rfl)
      · exact .inr rfl
  | copying lines next left =>
    obtain rfl := Option.some.inj h
    simp only [holds, List.mem_cons, List.not_mem_nil, or_false] at hl ⊢
    rcases hl with rfl | rfl
    · exact .inl (.inl rfl)
    · exact .inl (.inr (.inl rfl))
  | asking =>
    obtain rfl := Option.some.inj h
    exact .inr (by rw [List.mem_singleton.mp hl]; rfl)
  | listing => cases h

end Visit

namespace Guarded

theorem change_advance (s : Guarded π) (i order : Nat) :
    s.adapter.registry.Change (s.advance i order).adapter.registry := by
  unfold advance
  split
  · exact .keep
  · rename_i v _
    split
    · exact v.change order s.adapter
    · exact .keep

/-- Putting a visit elsewhere leaves those in front of it and behind it. -/
theorem replace_split {visits : List Visit} {i : Nat} {v : Visit} (h : visits[i]? = some v) :
    ∃ front behind, visits = front ++ v :: behind ∧
      ∀ next, replace visits i next = front ++ next.toList ++ behind := by
  obtain ⟨hlt, hv⟩ := List.getElem?_eq_some_iff.mp h
  refine ⟨visits.take i, visits.drop (i + 1), ?_, ?_⟩
  · rw [← hv, ← List.drop_eq_getElem_cons hlt, List.take_append_drop]
  · intro next
    cases next with
    | none =>
      show visits.eraseIdx i = _
      rw [List.eraseIdx_eq_take_drop_succ, Option.toList_none, List.append_nil]
    | some v' =>
      show visits.set i v' = _
      rw [List.set_eq_take_append_cons_drop, if_pos hlt, Option.toList_some, List.append_assoc]
      rfl

theorem advance_of_able {s : Guarded π} {i : Nat} {v : Visit} (hv : s.visits[i]? = some v)
    (hable : s.able v = true) (order : Nat) : s.advance i order =
      { adapter := (v.advance order s.adapter).1
        visits := replace s.visits i (v.advance order s.adapter).2 } := by
  simp only [advance, hv, if_pos hable]

/-- A visit that is able to go on takes a lock that no visit has. -/
theorem not_mem_holds_of_able {s : Guarded π} {v : Visit} (h : s.able v = true) {l : Lock}
    (hl : v.wants = some l) {w : Visit} (hw : w ∈ s.visits) : l ∉ w.holds := by
  unfold able at h
  rw [hl, Option.all_some, free, List.all_eq_true] at h
  exact of_decide_eq_true (h w hw)

/-- No two visits have one lock. -/
def Exclusive (s : Guarded π) : Prop :=
  s.visits.Pairwise fun v w => ∀ l ∈ v.holds, l ∉ w.holds

theorem Exclusive.ask {s : Guarded π} (h : s.Exclusive) {v : Visit} (hv : v.holds = []) :
    ({ s with visits := s.visits ++ [v] } : Guarded π).Exclusive := by
  refine List.pairwise_append.mpr ⟨h, List.pairwise_singleton _ _, ?_⟩
  intro w _ v' hv' l _
  rw [List.mem_singleton.mp hv', hv]
  exact List.not_mem_nil

theorem Exclusive.advance {s : Guarded π} (h : s.Exclusive) (i order : Nat) :
    (s.advance i order).Exclusive := by
  unfold Guarded.advance
  split
  · exact h
  · rename_i v hv
    split
    · rename_i hable
      obtain ⟨front, behind, hvisits, hreplace⟩ := replace_split hv
      have hbefore := h
      rw [Exclusive, hvisits] at hbefore
      obtain ⟨hfront, hrest, hcross⟩ := List.pairwise_append.mp hbefore
      obtain ⟨hself, hbehind⟩ := List.pairwise_cons.mp hrest
      show (replace s.visits i (v.advance order s.adapter).2).Pairwise _
      rw [hreplace, List.append_assoc]
      cases hnext : (v.advance order s.adapter).2 with
      | none =>
        exact List.pairwise_append.mpr ⟨hfront, hbehind, fun w hw u hu =>
          hcross w hw u (List.mem_cons_of_mem _ hu)⟩
      | some v' =>
        -- what the visit gets nobody had, and what it keeps nobody else has
        have hothers : ∀ w, w ∈ front ∨ w ∈ behind → ∀ l ∈ v'.holds, l ∉ w.holds := by
          intro w hw l hl
          rcases Visit.holds_advance hnext hl with hkept | hwanted
          · rcases hw with hw | hw
            · exact fun hlw => hcross w hw v List.mem_cons_self l hlw hkept
            · exact hself w hw l hkept
          · refine not_mem_holds_of_able hable hwanted ?_
            rw [hvisits, List.mem_append, List.mem_cons]
            exact hw.imp_right .inr
        refine List.pairwise_append.mpr ⟨hfront, List.pairwise_cons.mpr ⟨?_, hbehind⟩, ?_⟩
        · exact fun w hw => hothers w (.inr hw)
        · intro w hw u hu
          rcases List.mem_cons.mp hu with rfl | hu
          · exact fun l hlw hl => hothers w (.inl hw) l hl hlw
          · exact hcross w hw u (List.mem_cons_of_mem _ hu)
    · exact h

variable [Publisher π]

/-- Every turn is a change of the registry. -/
theorem change_step (s : Guarded π) (t : Turn π) :
    s.adapter.registry.Change (s.step t).adapter.registry := by
  cases t with
  | ask request => exact .keep
  | askIds => exact .keep
  | advance i order => exact change_advance s i order
  | tick p => exact .tick p s.adapter.now
  | hold p => exact s.adapter.change_beginReading p
  | read p =>
    simp only [step]
    split
    · exact .keep
    · exact s.adapter.change_finishReading p
  | publish p => exact s.adapter.change_publishNext p
  | exit p => exact .exit p
  | outside d surroundings publisher => exact .keep

theorem Exclusive.step {s : Guarded π} (h : s.Exclusive) (t : Turn π) : (s.step t).Exclusive := by
  cases t with
  | ask request => exact h.ask rfl
  | askIds => exact h.ask rfl
  | advance i order => exact h.advance i order
  | read p =>
    simp only [Guarded.step]
    split <;> exact h
  | _ => exact h

/-- What is so for a registry without feeds and outlives every change is so after every run. -/
theorem reached_of_change {P : Registry → Prop} (hempty : P {})
    (hchange : ∀ {r r' : Registry}, P r → r.Change r' → P r') (a : Adapter π)
    (turns : List (Turn π)) : P (run turns (begin a)).adapter.registry := by
  induction turns using List.reverseRecOn with
  | nil => exact hempty
  | append_singleton turns t ih =>
    rw [run_concat]
    exact hchange ih (change_step _ t)

theorem wired_reached (a : Adapter π) (turns : List (Turn π)) :
    (run turns (begin a)).adapter.registry.Wired :=
  reached_of_change Registry.wired_empty (fun h hchange => h.change hchange) a turns

theorem held_reached (a : Adapter π) (turns : List (Turn π)) :
    (run turns (begin a)).adapter.registry.Held :=
  reached_of_change Registry.held_empty (fun h hchange => h.change hchange) a turns

theorem owned_reached (a : Adapter π) (turns : List (Turn π)) :
    (run turns (begin a)).adapter.registry.Owned :=
  (reached_of_change (P := fun r => r.Wired ∧ r.Owned) ⟨Registry.wired_empty, Registry.owned_empty⟩
    (fun h hchange => ⟨h.1.change hchange, h.2.change h.1 hchange⟩) a turns).2

/-- No two visits have one lock, after every run. -/
theorem exclusive_run (a : Adapter π) (turns : List (Turn π)) :
    (run turns (begin a)).Exclusive := by
  induction turns using List.reverseRecOn with
  | nil => exact List.Pairwise.nil
  | append_singleton turns t ih =>
    rw [run_concat]
    exact ih.step t

end Guarded

end TableFeed
