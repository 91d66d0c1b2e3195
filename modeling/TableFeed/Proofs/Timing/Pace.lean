import Mathlib.Data.List.Chain
import Mathlib.Tactic.Ring
import TableFeed.Proofs.Timing.Runs

/-!
# The pace of a ticker

A ticker names the moment of its next tick only. What it did before is in the run: each wait that ends
with a tick takes one, when it was due or later.

* **`Paced`** — ticks in the order they were taken, each due where the one before it has put it.
* **`paced_act`** — the crux: one act takes at most one tick, and leaves the due moment to that tick.
* **`Paced.count_le`** — so ticks do not heap up, since a tick never brings the next one closer than an
  interval to its own due moment.
* **`no_bursts`** — all of it for a run that begins with a start.
-/

namespace TableFeed.Scheduler

/-! ## Ticks -/

/-- A tick that was taken, with its moments in nanoseconds. -/
structure Tick where
  due : Nat
  taken : Nat
  deriving DecidableEq, Repr

/-- When the tick after it is due: an interval after it was due itself, or, if it was taken more than 5 ms
late, an interval after it was taken. -/
def Tick.next (interval : Duration) (a : Tick) : Nat :=
  if a.due + (Duration.ofMillis 5).nanos < a.taken then a.taken + interval.nanos
  else a.due + interval.nanos

namespace Timed

/-- The tick that an act takes from a ticker. -/
def tick? (i : Nat) (t : Timed) : Act → Option Tick
  | .wait j within =>
    if j = i then
      t.scheduler.tickers[i]?.bind fun k =>
        match k.wait t.now within with
        | (.tick, _, moment) => some { due := k.due, taken := moment }
        | _ => none
    else none
  | _ => none

/-- The ticks that are taken from a ticker while acts return. -/
def ticks (i : Nat) (t : Timed) : List Act → List Tick
  | [] => []
  | a :: acts =>
    match t.act a with
    | none => []
    | some u => (t.tick? i a).toList ++ u.ticks i acts

end Timed

/-! ## What a pace is -/

/-- Ticks from a due moment to another. -/
inductive Paced (interval : Duration) : Nat → List Tick → Nat → Prop where
  | idle (due : Nat) : Paced interval due [] due
  | tick {due taken last : Nat} {ticks : List Tick} (late : due ≤ taken)
      (rest : Paced interval (Tick.next interval ⟨due, taken⟩) ticks last) :
      Paced interval due (⟨due, taken⟩ :: ticks) last

namespace Paced

variable {interval : Duration} {first middle last : Nat} {ticks more : List Tick}

theorem append (h : Paced interval first ticks middle) (hmore : Paced interval middle more last) :
    Paced interval first (ticks ++ more) last := by
  induction h with
  | idle => exact hmore
  | tick late _ ih => exact .tick late (ih hmore)

theorem le_next {due taken : Nat} (late : due ≤ taken) :
    due + interval.nanos ≤ Tick.next interval ⟨due, taken⟩ := by
  unfold Tick.next
  split
  · exact Nat.add_le_add_right late _
  · exact Nat.le_refl _

/-- A tick on the grid comes after one that was up to 5 ms late. -/
theorem spaced {a b : Tick} (hnext : b.due = a.next interval) (late : b.due ≤ b.taken) :
    a.taken + interval.nanos ≤ b.taken + (Duration.ofMillis 5).nanos := by
  unfold Tick.next at hnext
  split at hnext <;> omega

theorem taken_ge (h : Paced interval first ticks last) {n : Nat} {a : Tick} (ha : ticks[n]? = some a) :
    first + n * interval.nanos ≤ a.taken := by
  induction h generalizing n with
  | idle => cases ha
  | @tick due taken last ticks late _ ih =>
    cases n with
    | zero =>
      obtain rfl := Option.some.inj ha
      rw [Nat.zero_mul]
      exact late
    | succ n =>
      calc due + (n + 1) * interval.nanos = due + interval.nanos + n * interval.nanos := by ring
        _ ≤ Tick.next interval ⟨due, taken⟩ + n * interval.nanos :=
          Nat.add_le_add_right (le_next late) _
        _ ≤ a.taken := ih ha

/-- If any ticks were taken by a moment, the last of them was due by then even if none was late. -/
theorem count_le (h : Paced interval first ticks last) (moment : Nat) :
    ticks.countP (·.taken ≤ moment) = 0 ∨
      first + ticks.countP (·.taken ≤ moment) * interval.nanos ≤ moment + interval.nanos := by
  induction h with
  | idle => exact .inl rfl
  | @tick due taken last ticks late _ ih =>
    have hnext := @le_next interval due taken late
    rw [List.countP_cons]
    generalize ticks.countP (·.taken ≤ moment) = n at ih
    generalize Tick.next interval ⟨due, taken⟩ = next at ih hnext
    by_cases htaken : taken ≤ moment
    · -- one more tick, and those behind it are due an interval later
      right
      rw [if_pos (decide_eq_true htaken), Nat.add_mul, Nat.one_mul]
      rcases ih with rfl | ih <;> omega
    · rw [if_neg (by simpa using htaken), Nat.add_zero]
      exact ih.imp_right fun hle => by omega

theorem last_eq (h : Paced interval first ticks last) :
    last = (ticks.getLast?.map (Tick.next interval)).getD first := by
  induction h with
  | idle => rfl
  | @tick due taken last ticks late rest ih =>
    rw [ih, List.getLast?_cons, Option.map_some, Option.getD_some, Option.getD_map]

/-- Each tick is due where the one before it has put it. -/
theorem chain (h : Paced interval first ticks last) :
    ticks.IsChain fun a b => b.due = a.next interval ∧ b.due ≤ b.taken := by
  induction h with
  | idle => exact .nil
  | tick _ rest ih =>
    cases rest with
    | idle => exact .singleton _
    | tick late _ => exact .cons_cons ⟨rfl, late⟩ ih

end Paced

/-! ## The pace of a run -/

variable {i : Nat} {t u : Timed} {a : Act} {acts : List Act}

/-- A stop leaves the times of all tickers. -/
theorem times_stop {s : Scheduler} {k : Ticker} (hk : s.tickers[i]? = some k) :
    ∃ k', s.stop.tickers[i]? = some k' ∧ k'.interval = k.interval ∧ k'.due = k.due := by
  refine ⟨_, (getElem?_stop s i).trans (congrArg _ hk), ?_⟩
  split
  · exact ⟨rfl, rfl⟩
  · exact ⟨rfl, rfl⟩

theorem due_take (k : Ticker) (moment : Instant) :
    (k.take moment).due = Tick.next k.interval ⟨k.due, moment⟩ := by
  show k.nextDue moment = _
  unfold Ticker.nextDue Tick.next Ticker.tolerance
  rfl

theorem paced_act {k : Ticker} (hk : t.scheduler.tickers[i]? = some k) (hu : t.act a = some u) :
    ∃ k', u.scheduler.tickers[i]? = some k' ∧ k'.interval = k.interval ∧
      Paced k.interval k.due (t.tick? i a).toList k'.due := by
  cases a with
  | pass d =>
    obtain rfl := Option.some.inj hu
    exact ⟨k, hk, rfl, .idle _⟩
  | attach task =>
    obtain rfl := Option.some.inj hu
    exact ⟨k, hk, rfl, .idle _⟩
  | stop =>
    obtain rfl := Option.some.inj hu
    obtain ⟨k', hk', hinterval, hdue⟩ := times_stop hk
    exact ⟨k', hk', hinterval, hdue ▸ .idle _⟩
  | drop =>
    obtain rfl := Option.some.inj hu
    obtain ⟨k', hk', hinterval, hdue⟩ := times_stop hk
    exact ⟨k', hk', hinterval, hdue ▸ .idle _⟩
  | start =>
    obtain ⟨s, hs, rfl⟩ := Option.map_eq_some_iff.mp hu
    obtain ⟨k', hk', hinterval, hdue⟩ := times_stop hk
    refine ⟨k', ?_, hinterval, hdue ▸ .idle _⟩
    show s.tickers[i]? = some k'
    rw [(start?_cases hs).1, List.getElem?_append_left (List.getElem?_eq_some_iff.mp hk').1, hk']
  | wait j within =>
    obtain ⟨kj, hkj, rfl⟩ := Timed.act_wait hu
    dsimp only
    rw [List.getElem?_set, Timed.tick?]
    by_cases hj : j = i
    · subst hj
      obtain rfl := Option.some.inj (hkj.symm.trans hk)
      rw [if_pos rfl, if_pos (List.getElem?_eq_some_iff.mp hk).1, if_pos rfl, hk, Option.bind_some]
      refine ⟨_, rfl, ?_⟩
      rcases kj.wait_cases t.now within with ⟨-, hwait⟩ | ⟨-, -, hwait⟩ | ⟨-, -, hwait⟩
      · rw [hwait]
        exact ⟨rfl, .idle _⟩
      · rw [hwait]
        refine ⟨kj.interval_take _, .tick (Nat.le_max_right _ _) ?_⟩
        rw [due_take]
        exact .idle _
      · rw [hwait]
        exact ⟨rfl, .idle _⟩
    · rw [if_neg hj, if_neg hj]
      exact ⟨k, hk, rfl, .idle _⟩

/-- Along a run the ticks of a ticker keep its pace, whatever else is done. -/
theorem paced_run {k : Ticker} (hk : t.scheduler.tickers[i]? = some k) (hu : t.run acts = some u) :
    ∃ k', u.scheduler.tickers[i]? = some k' ∧ Paced k.interval k.due (t.ticks i acts) k'.due := by
  induction acts generalizing t k with
  | nil =>
    obtain rfl := Option.some.inj hu
    exact ⟨k, hk, .idle _⟩
  | cons a acts ih =>
    obtain ⟨v, hv, hrest⟩ := Option.bind_eq_some_iff.mp hu
    obtain ⟨m, hm, hinterval, hact⟩ := paced_act hk hv
    obtain ⟨k', hk', hpaced⟩ := ih hm hrest
    refine ⟨k', hk', ?_⟩
    rw [Timed.ticks, hv]
    exact hact.append (hinterval ▸ hpaced)

/-- The first tick of a new ticker is due an interval after its start. -/
theorem paced_from_start {s : Scheduler} {began : Nat}
    (h : Timed.run ⟨s, began⟩ (.start :: acts) = some t) :
    ∃ k, t.scheduler.tickers[s.tickers.length]? = some k ∧
      Paced s.interval (began + s.interval.nanos)
        (Timed.ticks s.tickers.length ⟨s, began⟩ (.start :: acts)) k.due := by
  obtain ⟨v, hv, hrest⟩ := Option.bind_eq_some_iff.mp h
  obtain ⟨s', hs', rfl⟩ := Option.map_eq_some_iff.mp hv
  have hnew : s'.tickers[s.tickers.length]? =
      some { interval := s.interval, due := began + s.interval.nanos } := by
    rw [(start?_cases hs').1, ← length_stop]
    exact List.getElem?_concat_length
  obtain ⟨k, hk, hpaced⟩ := paced_run hnew hrest
  refine ⟨k, hk, ?_⟩
  rw [Timed.ticks, hv]
  exact hpaced

/-- What is done with a scheduler from a start on takes ticks from the new ticker at most at its pace: the
`n`-th one `n` intervals after the start or later, two in a row no closer than an interval less 5 ms, and
each puts the next one an interval after its own due moment, or after itself if it was late. -/
theorem no_bursts {s : Scheduler} {began : Nat} (hpos : 0 < s.interval.nanos)
    (h : Timed.run ⟨s, began⟩ (.start :: acts) = some t) :
    let ticks := Timed.ticks s.tickers.length ⟨s, began⟩ (.start :: acts)
    (∀ (n : Nat) a, ticks[n]? = some a → began + (n + 1) * s.interval.nanos ≤ a.taken) ∧
    (∀ moment, ticks.countP (·.taken ≤ moment) ≤ (moment - began) / s.interval.nanos) ∧
    ticks.IsChain (fun a b => a.taken + s.interval.nanos ≤ b.taken + (Duration.ofMillis 5).nanos) ∧
    ticks.IsChain (fun a b => b.due = a.next s.interval) ∧
    t.scheduler.tickers[s.tickers.length]?.map (·.due) =
      some ((ticks.getLast?.map (Tick.next s.interval)).getD (began + s.interval.nanos)) := by
  intro ticks
  obtain ⟨k, hk, hpaced⟩ : ∃ k, t.scheduler.tickers[s.tickers.length]? = some k ∧
      Paced s.interval (began + s.interval.nanos) ticks k.due := paced_from_start h
  refine ⟨?_, ?_, ?_, ?_, ?_⟩
  · intro n a ha
    have hle := hpaced.taken_ge ha
    rw [Nat.add_assoc, Nat.add_comm s.interval.nanos, ← Nat.succ_mul] at hle
    exact hle
  · intro moment
    rw [Nat.le_div_iff_mul_le hpos]
    rcases hpaced.count_le moment with hnone | hsome
    · rw [hnone, Nat.zero_mul]
      exact Nat.zero_le _
    · omega
  · exact hpaced.chain.imp fun a b hab => Paced.spaced hab.1 hab.2
  · exact hpaced.chain.imp fun a b hab => hab.1
  · rw [hk, Option.map_some, hpaced.last_eq]

/-- Of four ticks one is taken 10 ms late and the next one 2 ms. -/
theorem no_bursts_late :
    ∃ acts t, Timed.run ⟨{ interval := .ofMillis 20 }, 0⟩ (.start :: acts) = some t ∧
      (Timed.ticks 0 ⟨{ interval := .ofMillis 20 }, 0⟩ (.start :: acts)).length = 4 ∧
      ∀ moment, (Timed.ticks 0 ⟨{ interval := .ofMillis 20 }, 0⟩ (.start :: acts)).countP
        (·.taken ≤ moment) ≤ moment / (Duration.ofMillis 20).nanos := by
  have hrun : Timed.run ⟨{ interval := .ofMillis 20 }, 0⟩
      [.start, .wait 0 (.ofMillis 20), .pass (.ofMillis 30), .wait 0 (.ofMillis 1), .pass (.ofMillis 22),
        .wait 0 (.ofMillis 1), .wait 0 (.ofMillis 5), .wait 0 (.ofMillis 20)] =
      some ⟨{ interval := .ofMillis 20
              tickers := [{ interval := .ofMillis 20, due := 110000000 }]
              running := some { ticker := 0 } }, 90000000⟩ := by
    decide +kernel
  exact ⟨_, _, hrun, by decide +kernel, (no_bursts (by decide) hrun).2.1⟩

end TableFeed.Scheduler
