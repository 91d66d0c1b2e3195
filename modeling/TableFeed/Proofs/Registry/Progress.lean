import Mathlib.Algebra.GroupWithZero.Nat
import Mathlib.Logic.Relation
import Mathlib.Order.WellFounded
import TableFeed.Proofs.Registry.Locks

/-!
# Calls always come to their end

Pollers may stay in a reading or a publishing for as long as they like: a call waits only for other
calls, and of those some can always go on.

* **`Visit.rank_lt`** — locks are taken in one order: store, feeds, source, snapshot.
* **`exists_able`** — of the calls under way one is able to go on: follow whoever has the lock that is
  wanted, and the lock that this one wants is further on in the order.
* **`goes_wellFounded`** — calls cannot go on without end: the calls that have yet to find out how many
  feeds there are become fewer, or else the steps that are left.
* **`Stands`** — what calls leave as it is: no poller moves, and every source keeps its holder.
* **`calls_complete`** — the headline.
-/

namespace TableFeed

variable {π : Type}

/-! ## The order of the locks -/

/-- A visit waits for a lock behind all that it has. -/
theorem Visit.rank_lt {v : Visit} {k l : Lock} (hk : k ∈ v.holds) (hl : v.wants = some l) :
    k.rank < l.rank := by
  cases v with
  | outside c =>
    simp only [holds, wants] at hk hl
    split at hk
    · rename_i hlocks
      rw [List.mem_singleton.mp hk]
      have hwaits : c.waits = false := by
        cases c with
        | collect => rfl
        | write text => rfl
        | _ => cases hlocks
      rw [hwaits, if_neg (by simp)] at hl
      split at hl
      · rw [← Option.some.inj hl]
        exact Nat.zero_lt_one
      · cases hl
    · cases hk
  | inside c uses => cases hl
  | gathering lines left =>
    cases left with
    | nil => cases hl
    | cons next left =>
      rw [← Option.some.inj hl]
      rcases List.mem_pair.mp hk with rfl | rfl
      · exact (by decide : 0 < 3)
      · exact (by decide : 1 < 3)
  | copying lines next left => cases hl
  | asking => cases hk
  | listing => cases hl

namespace Guarded

/-- A visit or a poller. -/
inductive Party where
  | visit (number : Nat)
  | poller (number : Nat)
  deriving DecidableEq, Repr

/-- What a poller waits for, or will wait for once its reading is over. -/
def pollerWants (q : Poller) : Option Lock :=
  match q.phase with
  | .ticked => some (.source q.source)
  | .reading => some (.snapshot q.source)
  | _ => none

/-- Someone waits for a lock. -/
def Wants (s : Guarded π) : Party → Lock → Prop
  | .visit i, l => ∃ v, s.visits[i]? = some v ∧ v.wants = some l
  | .poller p, l => ∃ q, s.adapter.registry.pollers[p]? = some q ∧ pollerWants q = some l

/-- Someone has a lock. -/
def Has (s : Guarded π) : Party → Lock → Prop
  | .visit i, l => ∃ v, s.visits[i]? = some v ∧ l ∈ v.holds
  | .poller p, l => ∃ n source, l = .source n ∧
      s.adapter.registry.sources[n]? = some source ∧ source.holder = some p

/-- Someone waits for a lock that someone else has. -/
def WaitsFor (s : Guarded π) (x y : Party) : Prop :=
  ∃ l, s.Wants x l ∧ s.Has y l

/-- Everyone waits for a lock behind all that they have. -/
theorem rank_lt_of_has {s : Guarded π} (hheld : s.adapter.registry.Held) {x : Party} {k l : Lock}
    (hk : s.Has x k) (hl : s.Wants x l) : k.rank < l.rank := by
  cases x with
  | visit i =>
    obtain ⟨v, hv, hholds⟩ := hk
    obtain ⟨w, hw, hwants⟩ := hl
    obtain rfl : v = w := Option.some.inj (hv.symm.trans hw)
    exact Visit.rank_lt hholds hwants
  | poller p =>
    obtain ⟨n, source, rfl, hsource, hholder⟩ := hk
    obtain ⟨q, hq, hwants⟩ := hl
    -- who holds a source reads it, and so waits at most for a snapshot
    obtain ⟨q', hq', hphase, -⟩ := hheld.holder n source p hsource hholder
    obtain rfl : q = q' := Option.some.inj (hq.symm.trans hq')
    simp only [pollerWants, hphase] at hwants
    rw [← Option.some.inj hwants]
    exact (by decide : 2 < 3)

/-- Nobody waits for a lock that, from one to the next, is waited for by whoever has it. -/
theorem no_cyclic_wait {s : Guarded π} (hheld : s.adapter.registry.Held) (x : Party) :
    ¬ Relation.TransGen s.WaitsFor x x := by
  have hchain : ∀ {y}, Relation.TransGen s.WaitsFor x y →
      ∃ l k, s.Wants x l ∧ s.Has y k ∧ l.rank ≤ k.rank := by
    intro y hxy
    induction hxy with
    | single h =>
      obtain ⟨l, hwants, hhas⟩ := h
      exact ⟨l, l, hwants, hhas, Nat.le_refl _⟩
    | tail _ h ih =>
      obtain ⟨l, k, hwants, hhas, hle⟩ := ih
      obtain ⟨m, hwants', hhas'⟩ := h
      have hlt := rank_lt_of_has hheld hhas hwants'
      exact ⟨l, m, hwants, hhas', by omega⟩
  intro hcycle
  obtain ⟨l, k, hwants, hhas, hle⟩ := hchain hcycle
  have hlt := rank_lt_of_has hheld hhas hwants
  omega

/-! ## Someone is able -/

theorem not_able {s : Guarded π} {v : Visit} (h : s.able v = false) :
    ∃ l, v.wants = some l ∧ ∃ w ∈ s.visits, l ∈ w.holds := by
  unfold able at h
  cases hwants : v.wants with
  | none => simp [hwants] at h
  | some l =>
    refine ⟨l, rfl, ?_⟩
    simpa [hwants, free] using h

/-- A visit that waits leads to one that is able to go on. -/
theorem exists_able_of_wants (s : Guarded π) (above : Nat) {v : Visit} (hv : v ∈ s.visits) {l : Lock}
    (hl : v.wants = some l) (habove : 3 < l.rank + above) : ∃ w ∈ s.visits, s.able w = true := by
  -- on how many ranks are left above the lock that is waited for
  induction above generalizing v l with
  | zero =>
    have hrank : l.rank ≤ 3 := by cases l <;> simp [Lock.rank]
    omega
  | succ above ih =>
    cases hable : s.able v with
    | true => exact ⟨v, hv, hable⟩
    | false =>
      obtain ⟨l', hl', w, hw, hholds⟩ := not_able hable
      obtain rfl : l = l' := Option.some.inj (hl.symm.trans hl')
      -- whoever has the lock is able to go on, or waits for one further on
      cases hwants : w.wants with
      | none => exact ⟨w, hw, by simp [able, hwants]⟩
      | some m =>
        have hlt : l.rank < m.rank := Visit.rank_lt hholds hwants
        exact ih hw hwants (by omega)

/-- As long as there are calls, one of them is able to go on, whatever pollers do. -/
theorem exists_able (s : Guarded π) (h : s.visits ≠ []) :
    ∃ (i : Nat) (v : Visit), s.visits[i]? = some v ∧ s.able v = true := by
  obtain ⟨v, hv⟩ := List.exists_mem_of_ne_nil s.visits h
  have hable : ∃ w ∈ s.visits, s.able w = true := by
    cases hwants : v.wants with
    | none => exact ⟨v, hv, by simp [able, hwants]⟩
    | some l => exact exists_able_of_wants s 4 hv hwants (by omega)
  obtain ⟨w, hw, hw'⟩ := hable
  obtain ⟨i, hi⟩ := List.mem_iff_getElem?.mp hw
  exact ⟨i, w, hi, hw'⟩

end Guarded

/-! ## Calls do not go on without end -/

namespace Call

/-- One as long as the call has yet to find out how many feeds there are. -/
def unlisted : Call → Nat
  | .ask .startAll | .ask .save | .collect => 1
  | _ => 0

/-- The steps that are left, once it is known how many feeds there are. -/
def left : Call → Nat
  | .ask (.create ..) | .ask .load | .ask .save => 2
  | .scheduleEach ids => ids.length + 1
  | _ => 1

theorem left_pos (c : Call) : 0 < c.left := by
  cases c with
  | ask request => cases request <;> simp [left]
  | _ => simp [left]

theorem advance_lighter {c c' : Call} {a : Adapter π} (h : (c.advance a).2 = some c') :
    c'.unlisted < c.unlisted ∨ (c'.unlisted = c.unlisted ∧ c'.left < c.left) := by
  cases c with
  | ask request =>
    cases request with
    | create id channel metadata =>
      simp only [advance] at h
      split at h
      · cases h
      · rw [← Option.some.inj h]
        exact .inr ⟨rfl, Nat.one_lt_two⟩
    | load =>
      simp only [advance] at h
      split at h
      · cases h
      · rw [← Option.some.inj h]
        exact .inr ⟨rfl, Nat.one_lt_two⟩
    | startAll =>
      rw [← Option.some.inj h]
      exact .inl Nat.zero_lt_one
    | save =>
      rw [← Option.some.inj h]
      exact .inr ⟨rfl, by decide⟩
    | _ => cases h
  | scheduleEach ids =>
    cases ids with
    | nil => cases h
    | cons id rest =>
      rw [← Option.some.inj h]
      exact .inr ⟨rfl, by simp [left]⟩
  | collect =>
    rw [← Option.some.inj h]
    exact .inl Nat.zero_lt_one
  | _ => cases h

end Call

namespace Visit

/-- As of its call. A saving that goes through the feeds knows how many there are. -/
def unlisted : Visit → Nat
  | .outside c => c.unlisted
  | .inside c _ => c.unlisted
  | _ => 0

/-- The steps that are left, at two for each piece of a call and for each feed. -/
def left : Visit → Nat
  | .outside c => 2 * c.left + 1
  | .inside c _ => 2 * c.left
  | .gathering _ left => 2 * left.length + 4
  | .copying _ _ left => 2 * left.length + 5
  | .asking => 2
  | .listing => 1

theorem left_pos (v : Visit) : 0 < v.left := by
  cases v with
  | inside c uses =>
    have hpos := c.left_pos
    show 0 < 2 * c.left
    omega
  | _ => simp [left]

theorem advance_lighter {v v' : Visit} {order : Nat} {a : Adapter π}
    (h : (v.advance order a).2 = some v') :
    v'.unlisted < v.unlisted ∨ (v'.unlisted = v.unlisted ∧ v'.left < v.left) := by
  -- behind the feeds stands the next piece of the call, which weighs at least two less
  have hcall : ∀ {c c' : Call}, (c.advance a).2 = some c' → ∀ m, 2 * c.left ≤ m →
      c'.unlisted < c.unlisted ∨ (c'.unlisted = c.unlisted ∧ 2 * c'.left + 1 < m) := by
    intro c c' hc m hm
    rcases Call.advance_lighter hc with hlt | ⟨heq, hlt⟩
    · exact .inl hlt
    · exact .inr ⟨heq, by omega⟩
  cases v with
  | outside c =>
    simp only [advance] at h
    split at h
    · rw [← Option.some.inj h]
      exact .inr ⟨rfl, Nat.lt_succ_self _⟩
    · obtain ⟨c', hc', rfl⟩ := Option.map_eq_some_iff.mp h
      exact hcall hc' _ (Nat.le_succ _)
  | inside c uses =>
    by_cases hc : c = .collect
    · subst hc
      rw [← Option.some.inj h]
      exact .inl Nat.zero_lt_one
    · rw [advance_inside order hc] at h
      obtain ⟨c', hc', rfl⟩ := Option.map_eq_some_iff.mp h
      exact hcall hc' _ (Nat.le_refl _)
  | gathering lines left =>
    cases left with
    | nil =>
      rw [← Option.some.inj h]
      exact .inr ⟨rfl, by simp [Visit.left, Call.left]⟩
    | cons next left =>
      rw [← Option.some.inj h]
      exact .inr ⟨rfl, by simp only [Visit.left, List.length_cons]; omega⟩
  | copying lines next left =>
    rw [← Option.some.inj h]
    exact .inr ⟨rfl, Nat.lt_succ_self _⟩
  | asking =>
    rw [← Option.some.inj h]
    exact .inr ⟨rfl, by decide⟩
  | listing => cases h

end Visit

namespace Guarded

/-- One call goes on. -/
def Goes (s s' : Guarded π) : Prop :=
  ∃ i order v, s.visits[i]? = some v ∧ s.able v = true ∧ s' = s.advance i order

/-- The calls that do not know how many feeds there are, and the steps that are left. -/
def weight (s : Guarded π) : Nat × Nat :=
  ((s.visits.map Visit.unlisted).sum, (s.visits.map Visit.left).sum)

theorem weight_goes {s s' : Guarded π} (h : s.Goes s') :
    Prod.Lex (· < ·) (· < ·) s'.weight s.weight := by
  obtain ⟨i, order, v, hv, hable, rfl⟩ := h
  obtain ⟨front, behind, hvisits, hreplace⟩ := replace_split hv
  have hsums : ∀ (f : Visit → Nat) (next : Option Visit),
      ((replace s.visits i next).map f).sum =
        (front.map f).sum + (next.toList.map f).sum + (behind.map f).sum := by
    intro f next
    rw [hreplace, List.map_append, List.map_append, List.sum_append, List.sum_append]
  have hbefore : ∀ f : Visit → Nat, (s.visits.map f).sum =
      (front.map f).sum + f v + (behind.map f).sum := by
    intro f
    rw [hvisits, List.map_append, List.sum_append, List.map_cons, List.sum_cons, Nat.add_assoc]
  -- the visits before and behind it count as they did
  rw [advance_of_able hv hable, Prod.lex_def]
  simp only [weight, hsums, hbefore]
  cases hnext : (v.advance order s.adapter).2 with
  | none =>
    have hpos := v.left_pos
    simp
    omega
  | some v' =>
    have hlighter := Visit.advance_lighter hnext
    simp
    omega

/-- Calls do not go on without end. -/
theorem goes_wellFounded : WellFounded fun s' s : Guarded π => s.Goes s' :=
  Subrelation.wf weight_goes (InvImage.wf weight (WellFounded.prod_lex Nat.lt_wfRel.wf Nat.lt_wfRel.wf))

end Guarded

/-! ## What calls leave as it is -/

namespace Registry

variable {r r' r'' : Registry}

/-- No poller of the one registry has moved in the other, and every source is what it was. -/
structure Stands (r r' : Registry) : Prop where
  pollers : ∀ (p : Nat) (q : Poller), r.pollers[p]? = some q →
    ∃ q' : Poller, r'.pollers[p]? = some q' ∧ q'.phase = q.phase ∧ q'.source = q.source
  sources : r.sources <+: r'.sources

theorem Stands.refl (r : Registry) : Stands r r :=
  ⟨fun _ q hq => ⟨q, hq, rfl, rfl⟩, List.prefix_refl _⟩

theorem Stands.trans (h : Stands r r') (h' : Stands r' r'') : Stands r r'' where
  pollers := by
    intro p q hq
    obtain ⟨q', hq', hphase, hsource⟩ := h.pollers p q hq
    obtain ⟨q'', hq'', hphase', hsource'⟩ := h'.pollers p q' hq'
    exact ⟨q'', hq'', hphase'.trans hphase, hsource'.trans hsource⟩
  sources := h.sources.trans h'.sources

/-- Telling pollers to stop moves none of them. -/
theorem stands_of_map {g : Nat → Poller → Poller}
    (hg : ∀ p q, (g p q).phase = q.phase ∧ (g p q).source = q.source)
    (hpollers : ∀ p, r'.pollers[p]? = (r.pollers[p]?).map (g p))
    (hsources : r.sources <+: r'.sources) : Stands r r' where
  pollers := by
    intro p q hq
    exact ⟨g p q, by rw [hpollers, hq, Option.map_some], hg p q⟩
  sources := hsources

theorem stands_install (r : Registry) (id channel : String) (reader : Reader) :
    Stands r (r.install id channel reader) := by
  apply stands_of_map (haltAt_same (r.poller? id)) (pollers_install r id channel reader)
  rw [sources_install]
  exact List.prefix_append _ _

theorem stands_installAll (loaded : List (StoredFeed × Reader)) (r : Registry) :
    Stands r (r.installAll loaded) := by
  induction loaded generalizing r with
  | nil => exact Stands.refl r
  | cons e rest ih => exact (stands_install r e.1.id e.1.channel e.2).trans (ih _)

theorem stands_remove {id : String} (h : r.remove? id = some r') : Stands r r' := by
  apply stands_of_map (haltAt_same (r.poller? id)) (pollers_remove h)
  exact ⟨[], by rw [List.append_nil, sources_remove h]⟩

theorem stands_start (r : Registry) (id : String) (traced : Bool) (now : Instant) :
    Stands r (r.start id traced now).1 := by
  have hhalt : ∀ n, Stands r (r.halt n) := fun n =>
    stands_of_map (haltAt_same n) (pollers_halt r n) ⟨[], by rw [List.append_nil, halt_sources]⟩
  have h := started r id traced now
  generalize (r.start id traced now).1 = r' at h ⊢
  cases h with
  | unknown _ => exact Stands.refl r
  | beyond f _ => exact ⟨(hhalt f.poller).pollers, (hhalt f.poller).sources⟩
  | fresh f ticker _ _ =>
    refine ⟨?_, (hhalt f.poller).sources⟩
    intro p q hq
    -- the new poller stands behind all others
    obtain ⟨q', hq', hsame⟩ := (hhalt f.poller).pollers p q hq
    have hlt : p < (r.halt f.poller).pollers.length := (List.getElem?_eq_some_iff.mp hq').1
    exact ⟨q', (List.getElem?_append_left hlt).trans hq', hsame⟩

theorem stands_stopAll (r : Registry) : Stands r r.stopAll := by
  refine stands_of_map (fun p q => ?_) (pollers_stopAll r) ?_
  · split <;> exact ⟨rfl, rfl⟩
  · exact ⟨[], by rw [List.append_nil, sources_stopAll]⟩

end Registry

theorem Call.stands (c : Call) (a : Adapter π) :
    a.registry.Stands (c.advance a).1.registry := by
  cases c.acts a with
  | keeps h => exact h ▸ Registry.Stands.refl _
  | puts id channel reader _ h => exact h ▸ Registry.stands_install a.registry id channel reader
  | putsAll loaded _ h => exact h ▸ Registry.stands_installAll loaded a.registry
  | removes id _ h => exact Registry.stands_remove h
  | starts id traced now _ h => exact h ▸ Registry.stands_start a.registry id traced now
  | stopsAll _ h => exact h ▸ Registry.stands_stopAll a.registry

theorem Visit.stands (v : Visit) (order : Nat) (a : Adapter π) :
    a.registry.Stands (v.advance order a).1.registry := by
  rcases v.advance_cases order a with hsame | ⟨c, -, hcall⟩
  · rw [hsame]
    exact Registry.Stands.refl _
  · rw [hcall]
    exact c.stands a

namespace Guarded

theorem stands_advance (s : Guarded π) (i order : Nat) :
    s.adapter.registry.Stands (s.advance i order).adapter.registry := by
  unfold advance
  split
  · exact Registry.Stands.refl _
  · rename_i v _
    split
    · exact v.stands order s.adapter
    · exact Registry.Stands.refl _

variable [Publisher π]

/-- Calls alone can always come to their end. -/
theorem exists_end (s : Guarded π) : ∃ more : List (Turn π),
    (∀ t ∈ more, ∃ i order, t = .advance i order) ∧ (run more s).visits = [] ∧
      s.adapter.registry.Stands (run more s).adapter.registry := by
  -- on the weight: whichever call goes on, less is left
  induction s using goes_wellFounded.induction with
  | _ s ih =>
    by_cases hdone : s.visits = []
    · exact ⟨[], List.forall_mem_nil _, hdone, Registry.Stands.refl _⟩
    · obtain ⟨i, v, hv, hable⟩ := exists_able s hdone
      obtain ⟨more, hmore, hend, hstands⟩ := ih _ ⟨i, 0, v, hv, hable, rfl⟩
      refine ⟨.advance i 0 :: more, ?_, hend, ?_⟩
      · intro t ht
        rcases List.mem_cons.mp ht with rfl | ht
        · exact ⟨i, 0, rfl⟩
        · exact hmore t ht
      · exact (stands_advance s i 0).trans hstands

/-- **Calls always come to their end.** In whatever state a run has left the adapter, with pollers
anywhere in their readings and publishings: nobody waits in a circle; as long as there are calls one of
them is able to go on; calls that go on by themselves cannot do so without end; and so there are turns of
calls alone after which every call has ended, while no poller has moved. -/
theorem calls_complete (a : Adapter π) (turns : List (Turn π)) :
    let s := run turns (begin a)
    (∀ x, ¬ Relation.TransGen s.WaitsFor x x) ∧
      (s.visits ≠ [] → ∃ s', s.Goes s') ∧
      Acc (fun s' s => s.Goes s') s ∧
      ∃ more : List (Turn π), (∀ t ∈ more, ∃ i order, t = .advance i order) ∧
        (run more s).visits = [] ∧ s.adapter.registry.Stands (run more s).adapter.registry := by
  intro s
  refine ⟨no_cyclic_wait (held_reached a turns), ?_, goes_wellFounded.apply s, exists_end s⟩
  intro hvisits
  obtain ⟨i, v, hv, hable⟩ := exists_able s hvisits
  exact ⟨s.advance i 0, i, 0, v, hv, hable, rfl⟩

end Guarded

end TableFeed
