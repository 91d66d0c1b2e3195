import Mathlib.Data.List.Induction
import TableFeed.Proofs.Timing.Ticker

/-!
# Runs of a scheduler

What is done with a scheduler, and with the tickers that it has handed out, is a list of acts; time
passes between them. A wait that is not over goes on as another one, so what happens while somebody waits
stands between two waits for the same ticker.

* **`Ended`** — when a ticker has been stopped, by the acts alone: one that ends what was running came
  after the start that handed the ticker out.
* **`Tracks`** — the invariant: of all tickers at most the last is not stopped, and it is the one that
  the scheduler names as running.
* **`Tracks.act`** — the crux: each act keeps it. What ends a ticker stops the one that is named, and
  all others have been stopped before.
* **`stopped_for_good`** — so the acts alone tell how a wait ends, whenever it is.
-/

namespace TableFeed.Scheduler

/-! ## Acts -/

/-- What is done with a scheduler and with its tickers. -/
inductive Act where
  /-- Nothing, for some time. -/
  | pass (d : Duration)
  | start
  | stop
  | attach (task : Nat)
  | drop
  /-- A wait for a ticker, at most so long. -/
  | wait (ticker : Nat) (within : Duration)
  deriving DecidableEq, Repr

/-- It ends what was running before. -/
def Act.ends : Act → Bool
  | .start | .stop | .drop => true
  | _ => false

/-- A scheduler at a moment. -/
structure Timed where
  scheduler : Scheduler
  now : Instant
  deriving DecidableEq, Repr

namespace Timed

/-- The scheduler after an act, if the act returns. A start whose first tick the clock does not reach
does not return, and nobody waits for a ticker that was not handed out. -/
def act (t : Timed) : Act → Option Timed
  | .pass d => some { t with now := t.now + d.nanos }
  | .start => (t.scheduler.start? t.now).map fun s => { t with scheduler := s }
  | .stop => some { t with scheduler := t.scheduler.stop }
  | .attach task => some { t with scheduler := t.scheduler.attach task }
  | .drop => some { t with scheduler := t.scheduler.drop }
  | .wait ticker within =>
    (t.scheduler.wait ticker t.now within).map fun (_, s, moment) => ⟨s, moment⟩

def run (t : Timed) (acts : List Act) : Option Timed :=
  acts.foldlM act t

theorem run_concat (t : Timed) (acts : List Act) (a : Act) :
    t.run (acts ++ [a]) = (t.run acts).bind fun u => u.act a := by
  unfold run
  rw [List.foldlM_append]
  simp only [List.foldlM_cons, List.foldlM_nil, bind_pure]
  rfl

/-- A wait that returns leaves everything but its ticker and the clock. -/
theorem act_wait {t u : Timed} {j : Nat} {within : Duration} (h : t.act (.wait j within) = some u) :
    ∃ k, t.scheduler.tickers[j]? = some k ∧
      u = ⟨{ t.scheduler with tickers := t.scheduler.tickers.set j (k.wait t.now within).2.1 },
        (k.wait t.now within).2.2⟩ := by
  obtain ⟨_, hs, rfl⟩ := Option.map_eq_some_iff.mp h
  obtain ⟨k, hk, rfl⟩ := Option.map_eq_some_iff.mp hs
  exact ⟨k, hk, rfl⟩

end Timed

/-! ## When a ticker has ended -/

/-- Behind the start that handed out a ticker comes an act that ends it. Tickers are numbered by the
starts before theirs. -/
def Ended (i : Nat) (acts : List Act) : Prop :=
  ∃ before a after, acts = before ++ a :: after ∧ i < before.count .start ∧ a.ends = true

variable {i : Nat} {acts : List Act} {a : Act}

theorem ended_concat :
    Ended i (acts ++ [a]) ↔ Ended i acts ∨ i < acts.count .start ∧ a.ends = true := by
  constructor
  · rintro ⟨before, b, after, h, hi, hb⟩
    -- either the ending act is the last one, or it stands in front of it
    rcases List.eq_nil_or_concat after with rfl | ⟨after, last, rfl⟩
    · obtain ⟨rfl, hlast⟩ := List.append_inj' h rfl
      obtain rfl := (List.cons.inj hlast).1
      exact .inr ⟨hi, hb⟩
    · rw [List.concat_eq_append, ← List.cons_append, ← List.append_assoc] at h
      exact .inl ⟨before, b, after, (List.append_inj' h rfl).1, hi, hb⟩
  · rintro (⟨before, b, after, rfl, hi, hb⟩ | ⟨hi, ha⟩)
    · exact ⟨before, b, after ++ [a], by simp, hi, hb⟩
    · exact ⟨acts, a, [], rfl, hi, ha⟩

/-- Only a ticker that was handed out has ended. -/
theorem Ended.lt (h : Ended i acts) : i < acts.count .start := by
  obtain ⟨before, a, after, rfl, hi, -⟩ := h
  rw [List.count_append]
  omega

/-! ## The invariant -/

/-- The index of the running ticker. -/
def current (s : Scheduler) : Option Nat :=
  s.running.map (·.ticker)

/-- A scheduler is where some acts have brought it. -/
structure Tracks (acts : List Act) (s : Scheduler) : Prop where
  handedOut : s.tickers.length = acts.count .start
  /-- A ticker is running if the last act that ended one has started another. -/
  runs : s.current.isSome = true ↔ (acts.filter Act.ends).getLast? = some .start
  last : ∀ i, s.current = some i → i + 1 = s.tickers.length
  /-- All other tickers have been told to stop. -/
  stopped : ∀ i k, s.tickers[i]? = some k → (k.stopped = true ↔ s.current ≠ some i)
  ended : ∀ i < s.tickers.length, (Ended i acts ↔ s.current ≠ some i)

variable {s : Scheduler}

theorem tracks_new (interval : Duration) : Tracks [] { interval } where
  handedOut := rfl
  runs := by simp [current]
  last := by simp [current]
  stopped := by simp
  ended := by simp

theorem current_stop (s : Scheduler) : s.stop.current = none := by
  unfold stop
  split
  · rename_i h
    simp [current, h]
  · rfl

theorem interval_stop (s : Scheduler) : s.stop.interval = s.interval := by
  unfold stop
  split <;> rfl

theorem length_stop (s : Scheduler) : s.stop.tickers.length = s.tickers.length := by
  unfold stop
  split
  · rfl
  · exact List.length_modify _ _ _

/-- A stop tells the running ticker, and no other. -/
theorem getElem?_stop (s : Scheduler) (i : Nat) : s.stop.tickers[i]? =
    s.tickers[i]?.map fun k => if s.current = some i then k.stop else k := by
  unfold stop current
  split
  · rename_i hidle
    simp [hidle]
  · rename_i r hr
    simp [hr, List.getElem?_modify]

/-- A start hands out a ticker that is due an interval later, and names it as running. -/
theorem start?_cases {s' : Scheduler} {now : Instant} (h : s.start? now = some s') :
    s'.tickers = s.stop.tickers ++
      [{ interval := s.interval, due := now + s.interval.nanos }] ∧
    s'.current = some s.tickers.length := by
  unfold start? Ticker.start? Instant.add? at h
  dsimp only at h
  rw [interval_stop] at h
  split at h
  · obtain rfl := Option.some.inj h
    exact ⟨rfl, congrArg some (length_stop s)⟩
  · cases h

theorem count_concat (h : a ≠ .start) : (acts ++ [a]).count .start = acts.count .start := by
  rw [List.count_append, List.count_singleton, if_neg (by simpa using h), Nat.add_zero]

/-- After a stop no ticker is left that has not been told. -/
theorem Tracks.stop_stopped (h : Tracks acts s) {k : Ticker} (hk : s.stop.tickers[i]? = some k) :
    k.stopped = true := by
  rw [getElem?_stop] at hk
  obtain ⟨k', hk', rfl⟩ := Option.map_eq_some_iff.mp hk
  by_cases hi : s.current = some i
  · rw [if_pos hi]
    rfl
  · rw [if_neg hi]
    exact (h.stopped i k' hk').mpr hi

/-- What stops the running ticker ends it. -/
theorem Tracks.stop (h : Tracks acts s) (ha : a.ends = true) (hstart : a ≠ .start) :
    Tracks (acts ++ [a]) s.stop := by
  refine ⟨?_, ?_, ?_, ?_, ?_⟩
  · rw [length_stop, h.handedOut, count_concat hstart]
  · rw [current_stop, List.filter_append, List.filter_cons_of_pos ha]
    simp [hstart]
  · simp [current_stop]
  · intro i k hk
    rw [current_stop, h.stop_stopped hk]
    simp
  · intro i hi
    rw [length_stop, h.handedOut] at hi
    rw [current_stop, ended_concat]
    exact iff_of_true (.inr ⟨hi, ha⟩) nofun

/-- A new ticker runs, and those before it are stopped. -/
theorem Tracks.start (h : Tracks acts s) {now : Instant} {s' : Scheduler}
    (hs : s.start? now = some s') : Tracks (acts ++ [.start]) s' := by
  obtain ⟨htickers, hcurrent⟩ := start?_cases hs
  have hlength : s'.tickers.length = s.tickers.length + 1 := by
    rw [htickers, List.length_append, List.length_singleton, length_stop]
  -- an index is that of a ticker from before, or it is the new one
  have hindex : ∀ {i}, i < s'.tickers.length → i < s.tickers.length ∨ i = s.tickers.length := by
    intro i hi
    rw [hlength] at hi
    omega
  refine ⟨?_, ?_, ?_, ?_, ?_⟩
  · rw [hlength, h.handedOut, List.count_append]
    rfl
  · rw [hcurrent, List.filter_append]
    simp [Act.ends]
  · intro i hi
    rw [hcurrent] at hi
    rw [hlength, ← Option.some.inj hi]
  · intro i k hk
    rw [hcurrent]
    rcases hindex (List.getElem?_eq_some_iff.mp hk).1 with hold | rfl
    · rw [htickers, List.getElem?_append_left (by rw [length_stop]; exact hold)] at hk
      refine iff_of_true (h.stop_stopped hk) ?_
      simp only [ne_eq, Option.some.injEq]
      omega
    · rw [htickers, ← length_stop, List.getElem?_concat_length] at hk
      rw [← Option.some.inj hk]
      simp
  · intro i hi
    rw [hcurrent, ended_concat, ← h.handedOut]
    rcases hindex hi with hold | rfl
    · refine iff_of_true (.inr ⟨hold, rfl⟩) ?_
      simp only [ne_eq, Option.some.injEq]
      omega
    · refine iff_of_false ?_ (by simp)
      rintro (hended | ⟨hlt, -⟩)
      · exact absurd hended.lt (by rw [h.handedOut]; exact Nat.lt_irrefl _)
      · exact absurd hlt (Nat.lt_irrefl _)

/-- What neither starts nor stops leaves everything that is tracked. -/
theorem Tracks.quiet (h : Tracks acts s) {s' : Scheduler} (ha : a.ends = false)
    (hcurrent : s'.current = s.current) (hlength : s'.tickers.length = s.tickers.length)
    (htickers : ∀ (i : Nat) (k : Ticker), s'.tickers[i]? = some k → ∃ k', s.tickers[i]? = some k' ∧
      k.stopped = k'.stopped) : Tracks (acts ++ [a]) s' := by
  have hstart : a ≠ .start := by
    rintro rfl
    cases ha
  refine ⟨?_, ?_, ?_, ?_, ?_⟩
  · rw [hlength, h.handedOut, count_concat hstart]
  · rw [hcurrent, h.runs, List.filter_append, List.filter_cons_of_neg (by simp [ha])]
    simp
  · rw [hcurrent, hlength]
    exact h.last
  · intro i k hk
    obtain ⟨k', hk', hsame⟩ := htickers i k hk
    rw [hcurrent, hsame]
    exact h.stopped i k' hk'
  · intro i hi
    rw [hcurrent, ended_concat, ← h.ended i (hlength ▸ hi)]
    simp [ha]

theorem Tracks.act {t u : Timed} (h : Tracks acts t.scheduler) (hu : t.act a = some u) :
    Tracks (acts ++ [a]) u.scheduler := by
  cases a with
  | pass d =>
    obtain rfl := Option.some.inj hu
    exact h.quiet rfl rfl rfl fun i k hk => ⟨k, hk, rfl⟩
  | start =>
    obtain ⟨s, hs, rfl⟩ := Option.map_eq_some_iff.mp hu
    exact h.start hs
  | stop =>
    obtain rfl := Option.some.inj hu
    exact h.stop rfl nofun
  | attach task =>
    obtain rfl := Option.some.inj hu
    refine h.quiet rfl ?_ rfl fun i k hk => ⟨k, hk, rfl⟩
    simp [current, attach, Function.comp_def]
  | drop =>
    obtain rfl := Option.some.inj hu
    exact h.stop rfl nofun
  | wait j within =>
    obtain ⟨k, hk, rfl⟩ := Timed.act_wait hu
    refine h.quiet rfl rfl (List.length_set ..) fun i k' hk' => ?_
    rw [List.getElem?_set] at hk'
    by_cases hi : j = i
    · -- a wait leaves the mark of the ticker as it is
      subst hi
      rw [if_pos rfl] at hk'
      split at hk'
      · exact ⟨k, hk, by rw [← Option.some.inj hk', Ticker.stopped_wait]⟩
      · cases hk'
    · rw [if_neg hi] at hk'
      exact ⟨k', hk', rfl⟩

theorem tracks_run {interval : Duration} {now : Instant} {t : Timed}
    (h : Timed.run ⟨{ interval }, now⟩ acts = some t) : Tracks acts t.scheduler := by
  induction acts using List.reverseRecOn generalizing t with
  | nil =>
    obtain rfl := Option.some.inj h
    exact tracks_new interval
  | append_singleton acts a ih =>
    rw [Timed.run_concat] at h
    obtain ⟨u, hu, ht⟩ := Option.bind_eq_some_iff.mp h
    exact (ih hu).act ht

/-! ## How a wait ends -/

/-- Whatever was done with a scheduler and its tickers, and whenever: it runs if a start was the last that
ended anything, a wait for a ticker ends with `stopped` if something ended the ticker, even with an
overdue tick, and no ticker before the last one ticks. -/
theorem stopped_for_good {interval : Duration} {began : Instant} {t : Timed}
    (h : Timed.run ⟨{ interval }, began⟩ acts = some t) :
    (t.scheduler.isRunning = true ↔ (acts.filter Act.ends).getLast? = some .start) ∧
    (t.scheduler.isRunning = false → t.scheduler.stop = t.scheduler) ∧
    t.scheduler.tickers.length = acts.count .start ∧
    ∀ i k, t.scheduler.tickers[i]? = some k → ∀ within, ∃ outcome s moment,
      t.scheduler.wait i t.now within = some (outcome, s, moment) ∧
      (outcome = .stopped ↔ Ended i acts) ∧
      (outcome = .tick ↔ ¬ Ended i acts ∧ k.due ≤ t.now + within.nanos) ∧
      (outcome = .tick → i + 1 = acts.count .start) := by
  have htracks := tracks_run h
  have hrunning : t.scheduler.current.isSome = t.scheduler.isRunning := Option.isSome_map
  refine ⟨hrunning ▸ htracks.runs, ?_, htracks.handedOut, ?_⟩
  · intro hidle
    have hnone : t.scheduler.running = none := by simpa [isRunning] using hidle
    unfold Scheduler.stop
    rw [hnone]
  · intro i k hk within
    have hi := (List.getElem?_eq_some_iff.mp hk).1
    have hended : k.stopped = true ↔ Ended i acts :=
      (htracks.stopped i k hk).trans (htracks.ended i hi).symm
    have hopen : k.stopped = false ↔ ¬ Ended i acts := by rw [← hended, Bool.not_eq_true]
    refine ⟨_, _, _, by unfold Scheduler.wait; rw [hk]; rfl, ?_, ?_, ?_⟩
    · exact (k.wait_stopped_iff t.now within).trans hended
    · rw [← hopen]
      exact k.wait_tick_iff t.now within
    · intro htick
      have hopen := ((k.wait_tick_iff t.now within).mp htick).1
      have hcurrent : t.scheduler.current = some i := by
        by_contra hne
        rw [(htracks.stopped i k hk).mpr hne] at hopen
        cases hopen
      rw [htracks.last i hcurrent, htracks.handedOut]

/-- A tick is overdue when a second start stops its ticker, and the second ticker ticks until the
scheduler goes away. -/
theorem stopped_for_good_overdue :
    ∃ t k, Timed.run ⟨{ interval := .ofMillis 20 }, 0⟩
        [.start, .wait 0 (.ofMillis 20), .pass (.ofMillis 50), .start, .attach 7, .wait 1 (.ofMillis 20),
          .drop] = some t ∧
      t.scheduler.tickers[0]? = some k ∧ k.due ≤ t.now ∧
      ∃ s moment, t.scheduler.wait 0 t.now (.ofMillis 20) = some (.stopped, s, moment) := by
  have hrun : Timed.run ⟨{ interval := .ofMillis 20 }, 0⟩
      [.start, .wait 0 (.ofMillis 20), .pass (.ofMillis 50), .start, .attach 7, .wait 1 (.ofMillis 20),
        .drop] =
      some ⟨{ interval := .ofMillis 20
              tickers := [{ interval := .ofMillis 20, due := 40000000, stopped := true },
                { interval := .ofMillis 20, due := 110000000, stopped := true }] }, 90000000⟩ := by
    decide +kernel
  obtain ⟨outcome, s, moment, hwait, hstopped, -⟩ :=
    (stopped_for_good hrun).2.2.2 0 _ rfl (.ofMillis 20)
  obtain rfl := hstopped.mpr
    ⟨[.start, .wait 0 (.ofMillis 20), .pass (.ofMillis 50)], .start, _, rfl, by decide, rfl⟩
  exact ⟨_, _, hrun, rfl, by decide, s, moment, hwait⟩

end TableFeed.Scheduler
