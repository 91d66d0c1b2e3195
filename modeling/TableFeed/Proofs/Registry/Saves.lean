import TableFeed.Proofs.Registry.Positions

/-!
# What savings write

A saving copies the snapshots one after the other, and readings end in between. So its text is not what
the store is to keep at any one moment, but every line is what it is to keep of that feed at the moment
when it was copied, and while lines are copied the feeds stay.

A moment is the number of turns before it, and `reg` is the registry at each moment.

* **`Gathers`** — what a saving has copied so far.
* **`Saved.step`** — the crux: after every turn the texts written are those of complete savings, one
  behind the other, and each saving under way has begun behind all of them.
* **`saved_positions`** — the headline.
-/

namespace TableFeed

namespace Guarded

variable {π : Type}

/-- A line that a saving has copied: its feed, and the moment. -/
structure Copied where
  feed : String × Feed
  moment : Nat

/-- A saving, from when it has the feeds to when it has all lines. -/
structure Save where
  begun : Nat
  ended : Nat
  lines : List Copied

/-- What is written of a feed. -/
def Copied.line (reg : Nat → Registry) (c : Copied) : StoredFeed :=
  (reg c.moment).line c.feed

/-- What is written. -/
def Save.text (reg : Nat → Registry) (x : Save) : String :=
  Store.text (Store.sorted (x.lines.map (Copied.line reg)))

/-- Between two moments, with the feeds as they are, these lines are copied and those feeds left. -/
structure Gathers (reg : Nat → Registry) (begun now : Nat) (lines : List Copied)
    (left : List (String × Feed)) : Prop where
  le : begun ≤ now
  same : ∀ m, begun ≤ m → m ≤ now → (reg m).feeds = (reg begun).feeds
  all : (lines.map (·.feed) ++ left).Perm (reg begun).feeds
  within : ∀ c ∈ lines, begun ≤ c.moment ∧ c.moment ≤ now

/-- What a visit has saved so far, behind the savings that are over. -/
def UnderWay (reg : Nat → Registry) (now : Nat) (saves : List Save) : Visit → Prop
  | .gathering lines left => ∃ begun copied, Gathers reg begun now copied left ∧
      lines = copied.map (Copied.line reg) ∧ ∀ x ∈ saves, x.ended ≤ begun
  | .copying lines next left => ∃ begun copied, Gathers reg begun now copied (next :: left) ∧
      lines = copied.map (Copied.line reg) ∧ ∀ x ∈ saves, x.ended ≤ begun
  | .outside (.write text) => ∃ y : Save, Gathers reg y.begun y.ended y.lines [] ∧ y.ended ≤ now ∧
      text = y.text reg ∧ ∀ x ∈ saves, x.ended ≤ y.begun
  | _ => True

/-- The text that a visit writes to the store if it goes on. -/
def text? : Visit → Option String
  | .outside (.write text) => some text
  | _ => none

/-- The text that a turn writes to the store. -/
def written (s : Guarded π) : Turn π → List String
  | .advance i _ => (s.visits[i]?.bind text?).toList
  | _ => []

/-- The texts written so far, with the savings that they are of. -/
structure Saved (reg : Nat → Registry) (now : Nat) (s : Guarded π) (saves : List Save)
    (texts : List String) : Prop where
  texts : texts = saves.map (Save.text reg)
  whole : ∀ x ∈ saves, Gathers reg x.begun x.ended x.lines [] ∧ x.ended ≤ now
  ordered : saves.Pairwise fun x y => x.ended ≤ y.begun
  visits : ∀ v ∈ s.visits, UnderWay reg now saves v

variable {reg : Nat → Registry} {begun now : Nat} {lines : List Copied}
  {left : List (String × Feed)} {saves : List Save} {texts : List String}

/-! ## What time and others do to a saving -/

theorem Gathers.later (h : Gathers reg begun now lines left)
    (hfeeds : (reg (now + 1)).feeds = (reg now).feeds) : Gathers reg begun (now + 1) lines left where
  le := Nat.le_succ_of_le h.le
  same := by
    intro m hm hle
    rcases Nat.lt_or_ge now m with hlt | hge
    · obtain rfl : m = now + 1 := by omega
      rw [hfeeds, h.same now h.le (Nat.le_refl _)]
    · exact h.same m hm hge
  all := h.all
  within c hc := ⟨(h.within c hc).1, Nat.le_succ_of_le (h.within c hc).2⟩

theorem Gathers.copy {next : String × Feed} (h : Gathers reg begun now lines (next :: left))
    (hfeeds : (reg (now + 1)).feeds = (reg now).feeds) :
    Gathers reg begun (now + 1) (lines ++ [⟨next, now⟩]) left where
  le := (h.later hfeeds).le
  same := (h.later hfeeds).same
  all := by
    rw [List.map_append, List.append_assoc]
    exact h.all
  within := by
    intro c hc
    rcases List.mem_append.mp hc with hc | hc
    · exact (h.later hfeeds).within c hc
    · rw [List.mem_singleton.mp hc]
      exact ⟨h.le, Nat.le_succ now⟩

/-- A saving under way goes on to the next moment if the feeds it has stay. -/
theorem UnderWay.later {v : Visit} (h : UnderWay reg now saves v)
    (hfeeds : .feeds ∈ v.holds → (reg (now + 1)).feeds = (reg now).feeds) :
    UnderWay reg (now + 1) saves v := by
  cases v with
  | gathering lines left =>
    obtain ⟨begun, copied, hgathers, hlines, hbehind⟩ := h
    exact ⟨begun, copied, hgathers.later (hfeeds (by simp [Visit.holds])), hlines, hbehind⟩
  | copying lines next left =>
    obtain ⟨begun, copied, hgathers, hlines, hbehind⟩ := h
    exact ⟨begun, copied, hgathers.later (hfeeds (by simp [Visit.holds])), hlines, hbehind⟩
  | outside c =>
    cases c with
    | write text =>
      obtain ⟨y, hgathers, hle, htext, hbehind⟩ := h
      exact ⟨y, hgathers, Nat.le_succ_of_le hle, htext, hbehind⟩
    | _ => trivial
  | _ => trivial

theorem underWay_of_not_store {v : Visit} (h : .store ∉ v.holds) : UnderWay reg now saves v := by
  cases v with
  | outside c =>
    cases c with
    | write text => exact absurd (List.mem_singleton_self _) h
    | _ => trivial
  | gathering lines left => exact absurd List.mem_cons_self h
  | copying lines next left => exact absurd List.mem_cons_self h
  | _ => trivial

/-- Without the feeds a visit does not touch the registry. -/
theorem advance_registry_of_not_feeds {v : Visit} (h : .feeds ∉ v.holds) (order : Nat)
    (a : Adapter π) : (v.advance order a).1.registry = a.registry := by
  rcases v.advance_cases order a with hsame | ⟨c, hv, hcall⟩
  · rw [hsame]
  · have hnot : c.usesFeeds ≠ true := by
      rcases hv with ⟨-, hfeeds⟩ | ⟨uses, rfl⟩
      · rw [hfeeds]
        exact Bool.false_ne_true
      · exact absurd (Visit.mem_holds_inside.mpr (.inl rfl)) h
    rw [hcall]
    cases c.acts a with
    | keeps hkeeps => exact hkeeps
    | puts id channel reader hc _ => exact absurd (hc ▸ rfl) hnot
    | putsAll loaded hc _ => exact absurd (hc ▸ rfl) hnot
    | removes id uses _ => exact absurd uses hnot
    | starts id traced now uses _ => exact absurd uses hnot
    | stopsAll uses _ => exact absurd uses hnot

/-- Only a saving has a text to write next. -/
theorem advance_not_write {c c' : Call} (hc : c ≠ .collect) {a : Adapter π}
    (h : (c.advance a).2 = some c') (text : String) : c' ≠ .write text := by
  rintro rfl
  rcases Visit.locks_advance h rfl with hlocks | hwaits
  · cases c with
    | collect => exact hc rfl
    | write text => cases h
    | _ => cases hlocks
  · cases c with
    | ask request =>
      cases request with
      | save => cases h
      | _ => cases hwaits
    | _ => cases hwaits

theorem underWay_outside {c : Call} (hc : ∀ text, c ≠ .write text) :
    UnderWay reg now saves (.outside c) := by
  cases c with
  | write text => exact absurd rfl (hc text)
  | _ => trivial

/-! ## What a saving does itself -/

variable {s : Guarded π} {v : Visit} {order : Nat}

/-- A visit that does not write goes on with its saving. -/
theorem UnderWay.advance (h : UnderWay reg now saves v) (hreg : reg now = s.adapter.registry)
    (hreg' : reg (now + 1) = (v.advance order s.adapter).1.registry)
    (hover : ∀ x ∈ saves, x.ended ≤ now) {v' : Visit} (hnext : (v.advance order s.adapter).2 = some v') :
    UnderWay reg (now + 1) saves v' := by
  have hcall : ∀ {c : Call}, c ≠ .collect → (c.advance s.adapter).2.map .outside = some v' →
      UnderWay reg (now + 1) saves v' := by
    intro c hc hsome
    obtain ⟨c', hc', rfl⟩ := Option.map_eq_some_iff.mp hsome
    exact underWay_outside (advance_not_write hc hc')
  cases v with
  | outside c =>
    simp only [Visit.advance] at hnext
    split at hnext
    · rw [← Option.some.inj hnext]
      trivial
    · rename_i uses
      exact hcall (by rintro rfl; exact uses rfl) hnext
  | inside c uses =>
    by_cases hc : c = .collect
    · -- a saving begins
      subst hc
      rw [← Option.some.inj hnext]
      have hfeeds : reg (now + 1) = reg now := hreg'.trans hreg.symm
      refine ⟨now + 1, [], ⟨Nat.le_refl _, ?_, ?_, List.forall_mem_nil _⟩, rfl, ?_⟩
      · intro m hm hle
        rw [Nat.le_antisymm hle hm]
      · rw [hfeeds, hreg]
        exact s.adapter.registry.inOrder_perm order
      · exact fun x hx => Nat.le_succ_of_le (hover x hx)
    · rw [Visit.advance_inside order hc] at hnext
      exact hcall hc hnext
  | gathering lines left =>
    obtain ⟨begun, copied, hgathers, hlines, hbehind⟩ := h
    cases left with
    | nil =>
      have hfeeds : reg (now + 1) = reg now := hreg'.trans hreg.symm
      rw [← Option.some.inj hnext]
      exact ⟨⟨begun, now + 1, copied⟩, hgathers.later (by rw [hfeeds]), Nat.le_refl _,
        by rw [hlines]; rfl, hbehind⟩
    | cons next left =>
      have hfeeds : reg (now + 1) = reg now := hreg'.trans hreg.symm
      rw [← Option.some.inj hnext]
      exact ⟨begun, copied, hgathers.later (by rw [hfeeds]), hlines, hbehind⟩
  | copying lines next left =>
    obtain ⟨begun, copied, hgathers, hlines, hbehind⟩ := h
    have hfeeds : reg (now + 1) = reg now := hreg'.trans hreg.symm
    rw [← Option.some.inj hnext]
    refine ⟨begun, copied ++ [⟨next, now⟩], hgathers.copy (by rw [hfeeds]), ?_, hbehind⟩
    rw [hlines, List.map_append, ← hreg]
    rfl
  | asking =>
    rw [← Option.some.inj hnext]
    trivial
  | listing => cases hnext

/-! ## Turns -/

/-- A turn in which no feed changes and no visit but new ones goes anywhere. -/
theorem Saved.quiet {s' : Guarded π} (h : Saved reg now s saves texts)
    (hvisits : ∀ v ∈ s'.visits, v ∈ s.visits ∨ v.holds = [])
    (hfeeds : (reg (now + 1)).feeds = (reg now).feeds) : Saved reg (now + 1) s' saves texts where
  texts := h.texts
  whole x hx := ⟨(h.whole x hx).1, Nat.le_succ_of_le (h.whole x hx).2⟩
  ordered := h.ordered
  visits := by
    intro v hv
    rcases hvisits v hv with hv | hnew
    · exact (h.visits v hv).later fun _ => hfeeds
    · exact underWay_of_not_store (by rw [hnew]; exact List.not_mem_nil)

/-- What others have saved stays when a visit goes on: it does not have their feeds. -/
theorem Saved.others {front behind : List Visit} (h : Saved reg now s saves texts)
    (hexclusive : s.Exclusive) (hvisits : s.visits = front ++ v :: behind)
    (hreg : reg now = s.adapter.registry)
    (hreg' : reg (now + 1) = (v.advance order s.adapter).1.registry) {u : Visit}
    (hu : u ∈ front ∨ u ∈ behind) :
    UnderWay reg (now + 1) saves u ∧ ∀ l ∈ u.holds, l ∉ v.holds := by
  rw [Exclusive, hvisits] at hexclusive
  obtain ⟨-, hrest, hcross⟩ := List.pairwise_append.mp hexclusive
  have hapart : ∀ l ∈ u.holds, l ∉ v.holds := by
    rcases hu with hu | hu
    · exact hcross u hu v List.mem_cons_self
    · intro l hl hlv
      exact (List.pairwise_cons.mp hrest).1 u hu l hlv hl
  have hmem : u ∈ s.visits := by
    rw [hvisits, List.mem_append, List.mem_cons]
    exact hu.imp_right .inr
  refine ⟨(h.visits u hmem).later fun hfeeds => ?_, hapart⟩
  rw [hreg', hreg, advance_registry_of_not_feeds (hapart _ hfeeds)]

/-- The visit that goes on writes a text, which is that of a whole saving, or it goes on with its
saving. -/
theorem Saved.advance {i : Nat} (h : Saved reg now s saves texts) (hexclusive : s.Exclusive)
    (hv : s.visits[i]? = some v) (hable : s.able v = true) (hreg : reg now = s.adapter.registry)
    (hreg' : reg (now + 1) = (v.advance order s.adapter).1.registry) :
    ∃ saves', Saved reg (now + 1) (s.advance i order) saves' (texts ++ (text? v).toList) := by
  obtain ⟨front, behind, hvisits, hreplace⟩ := replace_split hv
  have hmem : v ∈ s.visits := List.mem_of_getElem? hv
  have hothers := fun u hu => h.others (u := u) hexclusive hvisits hreg hreg' hu
  rw [advance_of_able hv hable]
  have hmember : ∀ u ∈ replace s.visits i (v.advance order s.adapter).2,
      (u ∈ front ∨ u ∈ behind) ∨ (v.advance order s.adapter).2 = some u := by
    intro u hu
    rw [hreplace, List.mem_append, List.mem_append, Option.mem_toList] at hu
    rcases hu with (hu | hu) | hu
    · exact .inl (.inl hu)
    · exact .inr hu
    · exact .inl (.inr hu)
  cases htext : text? v with
  | none =>
    rw [Option.toList_none, List.append_nil]
    refine ⟨saves, h.texts, fun x hx => ⟨(h.whole x hx).1, Nat.le_succ_of_le (h.whole x hx).2⟩,
      h.ordered, ?_⟩
    intro u hu
    rcases hmember u hu with hu | hnext
    · exact (hothers u hu).1
    · exact (h.visits v hmem).advance hreg hreg' (fun x hx => (h.whole x hx).2) hnext
  | some text =>
    obtain rfl : v = .outside (.write text) := by
      unfold text? at htext
      split at htext
      · rw [Option.some.inj htext]
      · cases htext
    obtain ⟨y, hgathers, hle, heq, hbehind⟩ := h.visits _ hmem
    refine ⟨saves ++ [y], ?_, ?_, ?_, ?_⟩
    · rw [h.texts, heq, List.map_append]
      rfl
    · intro x hx
      rcases List.mem_append.mp hx with hx | hx
      · exact ⟨(h.whole x hx).1, Nat.le_succ_of_le (h.whole x hx).2⟩
      · rw [List.mem_singleton.mp hx]
        exact ⟨hgathers, Nat.le_succ_of_le hle⟩
    · refine List.pairwise_append.mpr ⟨h.ordered, List.pairwise_singleton _ _, ?_⟩
      intro x hx z hz
      rw [List.mem_singleton.mp hz]
      exact hbehind x hx
    · -- who writes has the store, so nobody else is saving
      intro u hu
      rcases hmember u hu with hu | hnext
      · apply underWay_of_not_store
        intro hstore
        exact (hothers u hu).2 _ hstore (List.mem_singleton_self _)
      · cases hnext

variable [Publisher π]

theorem Saved.step {t : Turn π} (h : Saved reg now s saves texts) (hexclusive : s.Exclusive)
    (hreg : reg now = s.adapter.registry) (hreg' : reg (now + 1) = (s.step t).adapter.registry) :
    ∃ saves', Saved reg (now + 1) (s.step t) saves' (texts ++ s.written t) := by
  -- turns of pollers leave feeds and visits
  have hpoller : ∀ p, t.poller? = some p → (s.step t).visits = s.visits → s.written t = [] →
      ∃ saves', Saved reg (now + 1) (s.step t) saves' (texts ++ s.written t) := by
    intro p hp hvisits hwritten
    rw [hwritten, List.append_nil]
    refine ⟨saves, h.quiet (fun v hv => .inl (hvisits ▸ hv)) ?_⟩
    rw [hreg', hreg, (poller_step hp).1]
  have hidle : (∀ v ∈ (s.step t).visits, v ∈ s.visits ∨ v.holds = []) →
      (s.step t).adapter.registry = s.adapter.registry → s.written t = [] →
      ∃ saves', Saved reg (now + 1) (s.step t) saves' (texts ++ s.written t) := by
    intro hvisits hsame hwritten
    rw [hwritten, List.append_nil]
    exact ⟨saves, h.quiet hvisits (by rw [hreg', hreg, hsame])⟩
  have hask : ∀ {w : Visit}, w.holds = [] → ∀ v ∈ s.visits ++ [w], v ∈ s.visits ∨ v.holds = [] := by
    intro w hw v hv
    rcases List.mem_append.mp hv with hv | hv
    · exact .inl hv
    · exact .inr (by rw [List.mem_singleton.mp hv, hw])
  cases t with
  | ask request => exact hidle (hask rfl) rfl rfl
  | askIds => exact hidle (hask rfl) rfl rfl
  | tick p => exact hpoller p rfl rfl rfl
  | hold p => exact hpoller p rfl rfl rfl
  | publish p => exact hpoller p rfl rfl rfl
  | exit p => exact hpoller p rfl rfl rfl
  | read p =>
    refine hpoller p rfl ?_ rfl
    simp only [Guarded.step]
    split <;> rfl
  | outside d surroundings publisher => exact hidle (fun v hv => .inl hv) rfl rfl
  | advance i order =>
    cases hv : s.visits[i]? with
    | none =>
      have hstep : s.step (.advance i order) = s := by simp [Guarded.step, Guarded.advance, hv]
      refine hidle (fun v hv => .inl (hstep ▸ hv)) (by rw [hstep]) ?_
      simp [written, hv]
    | some v =>
      have hwritten : s.written (.advance i order) = (text? v).toList := by simp [written, hv]
      cases hable : s.able v with
      | false =>
        have hstep : s.step (.advance i order) = s := by
          simp [Guarded.step, Guarded.advance, hv, hable]
        -- who writes waits for nothing
        have htext : text? v = none := by
          unfold text?
          split
          · cases hable
          · rfl
        refine hidle (fun v hv => .inl (hstep ▸ hv)) (by rw [hstep]) ?_
        rw [hwritten, htext, Option.toList_none]
      | true =>
        rw [hwritten]
        refine h.advance hexclusive hv hable hreg ?_
        rw [hreg']
        show (s.advance i order).adapter.registry = _
        rw [advance_of_able hv hable]

/-! ## Runs -/

/-- The registry after so many turns of a run. -/
def registryAt (a : Adapter π) (turns : List (Turn π)) (moment : Nat) : Registry :=
  (run (turns.take moment) (begin a)).adapter.registry

theorem saved_run (a : Adapter π) (turns : List (Turn π)) {moment : Nat}
    (hmoment : moment ≤ turns.length) : ∃ saves, Saved (registryAt a turns) moment
      (run (turns.take moment) (begin a)) saves (history written (turns.take moment) (begin a)) := by
  induction moment with
  | zero =>
    exact ⟨[], rfl, List.forall_mem_nil _, List.Pairwise.nil, List.forall_mem_nil _⟩
  | succ moment ih =>
    obtain ⟨saves, hsaved⟩ := ih (Nat.le_of_succ_le hmoment)
    have hnext : run (turns.take (moment + 1)) (begin a) =
        (run (turns.take moment) (begin a)).step turns[moment] := by
      rw [← List.take_append_getElem hmoment, run_concat]
    have htexts : history written (turns.take (moment + 1)) (begin a) =
        history written (turns.take moment) (begin a) ++
          (run (turns.take moment) (begin a)).written turns[moment] := by
      rw [← List.take_append_getElem hmoment, history_concat]
    rw [hnext, htexts]
    refine hsaved.step (exclusive_run a _) rfl ?_
    show (run (turns.take (moment + 1)) (begin a)).adapter.registry = _
    rw [hnext]

/-- A line that was copied is of a feed that stood there at that moment. -/
theorem Gathers.feed? {a : Adapter π} {turns : List (Turn π)}
    (h : Gathers (registryAt a turns) begun now lines []) {c : Copied} (hc : c ∈ lines) :
    (registryAt a turns c.moment).feed? c.feed.1 = some c.feed.2 := by
  obtain ⟨hbegun, hnow⟩ := h.within c hc
  have hfeed : c.feed ∈ (registryAt a turns c.moment).feeds := by
    rw [h.same c.moment hbegun hnow]
    exact h.all.subset (List.mem_append_left _ (List.mem_map_of_mem hc))
  exact (Registry.lookup_eq_some_iff (wired_reached a _).ordered).mpr hfeed

/-- What is written later of the same source has no smaller position. -/
theorem headerPos_later (a : Adapter π) (turns : List (Turn π)) {c d : Copied}
    (hsource : c.feed.2.source = d.feed.2.source) (hle : c.moment ≤ d.moment) {i : Int}
    (hi : headerPos (c.line (registryAt a turns)).metadata = some i) :
    ∃ j, headerPos (d.line (registryAt a turns)).metadata = some j ∧ i ≤ j := by
  unfold Copied.line at hi ⊢
  rw [Registry.line_metadata] at hi ⊢
  cases hcontent : (registryAt a turns c.moment).contents[c.feed.2.source]? with
  | none =>
    rw [hcontent] at hi
    cases hi
  | some content =>
    rw [hcontent] at hi
    -- the later moment is reached from the earlier one
    have hsplit : turns.take d.moment =
        turns.take c.moment ++ (turns.take d.moment).drop c.moment := by
      have htake : (turns.take d.moment).take c.moment = turns.take c.moment := by
        rw [List.take_take, Nat.min_eq_left hle]
      rw [← htake, List.take_append_drop]
    obtain ⟨content', hcontent', j, hj, hij⟩ :=
      headerPos_run a (turns.take c.moment) ((turns.take d.moment).drop c.moment) hcontent hi
    rw [← hsplit, hsource] at hcontent'
    refine ⟨j, ?_, hij⟩
    show headerPos (((registryAt a turns d.moment).contents[d.feed.2.source]?).elim .null (·.2)) = _
    unfold registryAt
    rw [hcontent']
    exact hj

/-- **Positions in the store.** In every run the texts written are those of savings one behind the
other. While a saving copies its lines the feeds stay, and it copies one line for each of them. Every line
says what its reader was after the last reading of the source that is under the id then, or as it was put
in. Between two savings the position of a source never goes back. And nothing that the poller of a
replaced or removed feed does changes what the store is to keep. -/
theorem saved_positions (a : Adapter π) (turns : List (Turn π)) :
    (∃ saves : List Save,
      history written turns (begin a) = saves.map (Save.text (registryAt a turns)) ∧
      (∀ x ∈ saves, Gathers (registryAt a turns) x.begun x.ended x.lines [] ∧
        x.ended ≤ turns.length) ∧
      saves.Pairwise (fun x y => x.ended ≤ y.begun) ∧
      (∀ x ∈ saves, ∀ c ∈ x.lines,
        LastUnder c.feed.1 c.feed.2.source (installations (turns.take c.moment) (begin a)) ∧
        ∀ reader, (installations (turns.take c.moment) (begin a))[c.feed.2.source]? =
            some (c.feed.1, reader) →
          (c.line (registryAt a turns)).metadata =
            ((lastReading c.feed.2.source (readings (turns.take c.moment) (begin a))).getD
              reader).metadata) ∧
      saves.Pairwise fun x y => ∀ c ∈ x.lines, ∀ d ∈ y.lines,
        c.feed.2.source = d.feed.2.source →
        ∀ i, headerPos (c.line (registryAt a turns)).metadata = some i →
          ∃ j, headerPos (d.line (registryAt a turns)).metadata = some j ∧ i ≤ j) ∧
    ∀ (p : Nat) (q : Poller), (run turns (begin a)).adapter.registry.pollers[p]? = some q →
      (∀ f, (run turns (begin a)).adapter.registry.feed? q.thing = some f → f.source ≠ q.source) →
      ∀ t : Turn π, t.poller? = some p →
        ((run turns (begin a)).step t).adapter.registry.stored =
          (run turns (begin a)).adapter.registry.stored := by
  obtain ⟨saves, hsaved⟩ := saved_run a turns (Nat.le_refl turns.length)
  rw [List.take_length] at hsaved
  refine ⟨⟨saves, hsaved.texts, hsaved.whole, hsaved.ordered, ?_, ?_⟩, ?_⟩
  · intro x hx c hc
    exact line_run a (turns.take c.moment) ((hsaved.whole x hx).1.feed? hc)
  · refine hsaved.ordered.imp_of_mem fun hx hy hle => ?_
    intro c hc d hd hsource i hi
    have hc' := ((hsaved.whole _ hx).1.within c hc).2
    have hd' := ((hsaved.whole _ hy).1.within d hd).1
    exact headerPos_later a turns hsource (by omega) hi
  · exact fun p q hq hgone t ht => stored_of_departed a turns hq hgone ht

end Guarded

end TableFeed
