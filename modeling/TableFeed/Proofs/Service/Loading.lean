import TableFeed.Proofs.Registry.StoreText
import TableFeed.Proofs.Registry.Halting
import TableFeed.Proofs.Service.Provisioning

/-!
# Loading is a merge

The store is read line by line, and a line that describes no thing is passed over, whatever is wrong
with it. What the other lines describe is put into the registry from first to last: it replaces the
thing that was there under its id, also one of an earlier line, and all else stays.

* **`Adapter.entry?`** — what one line describes.
* **`readStore_entries`** — the crux: reading a store gives what its lines describe, and leaves no
  trace but in the log.
* **`Registry.Merged`**, **`Wired.merged`** — what the registry is after that.
* **`load_merges`** — all of it, for every state that calls and pollers lead to, and that a line
  which describes nothing makes no difference.
-/

namespace TableFeed

variable {π : Type}

/-! ## Lines -/

namespace Adapter

/-- What a trimmed line of the store describes. -/
def described? (a : Adapter π) (line : String) : Option (StoredFeed × Reader) :=
  (StoredFeed.parse line).toOption.bind fun stored =>
    (Reader.ofMetadata a.kind stored.metadata).toOption.map fun r =>
      (stored, (r.prepare a.access).1)

/-- The thing that a line of the store describes, with its reader. -/
def entry? (a : Adapter π) (line : List Char) : Option (StoredFeed × Reader) :=
  a.described? (String.ofList (Blank.trimChars line))

/-- The things that the lines of a text describe, first to last. -/
def entries (a : Adapter π) (text : String) : List (StoredFeed × Reader) :=
  (Split.every (· = '\n') text.toList).filterMap a.entry?

/-- The adapter in other surroundings. -/
def amid (a : Adapter π) (surroundings : Surroundings) : Adapter π :=
  { a with surroundings }

variable {a b : Adapter π}

theorem Alike.described? (h : a.Alike b) (line : String) : b.described? line = a.described? line := by
  unfold Adapter.described?
  rw [h.kind, h.access]

/-- A line without anything in it describes nothing. -/
theorem described?_empty (a : Adapter π) : a.described? "" = none := by
  have hparse : (StoredFeed.parse "").toOption.isNone = true := by decide +kernel
  unfold described?
  rw [Option.isNone_iff_eq_none.mp hparse]
  rfl

/-- A line is read as what it describes, and all that it leaves behind is in the log. -/
theorem loadLine_described (a : Adapter π) (line : String) :
    (a.loadLine line).2.toOption = a.described? line ∧ a.Alike (a.loadLine line).1 ∧
      (a.loadLine line).1.surroundings = a.surroundings := by
  unfold loadLine described?
  cases StoredFeed.parse line with
  | error e => exact ⟨rfl, Alike.refl a, rfl⟩
  | ok stored =>
    have halike : a.Alike (a.build stored.metadata).1 ∧
        (a.build stored.metadata).1.surroundings = a.surroundings := by
      unfold build
      split
      · exact ⟨Alike.refl a, rfl⟩
      · exact ⟨⟨rfl, rfl, rfl, rfl⟩, rfl⟩
    have hstored : (Except.ok stored : Except Error StoredFeed).toOption = some stored := rfl
    rw [hstored, Option.bind_some]
    dsimp only
    cases hmake : Reader.ofMetadata a.kind stored.metadata with
    | error e =>
      rw [build_refused hmake]
      exact ⟨rfl, Alike.refl a, rfl⟩
    | ok r =>
      have hbuild := build_made hmake
      generalize a.build stored.metadata = built at halike hbuild ⊢
      obtain ⟨b, result⟩ := built
      obtain rfl : result = _ := hbuild
      exact ⟨rfl, halike⟩

theorem loadLines_described (lines : List (Nat × String)) (a : Adapter π) :
    (loadLines lines a).2 = (lines.map (·.2)).filterMap a.described? ∧
      a.Alike (loadLines lines a).1 ∧ (loadLines lines a).1.surroundings = a.surroundings := by
  induction lines generalizing a with
  | nil => exact ⟨rfl, Alike.refl a, rfl⟩
  | cons first rest ih =>
    obtain ⟨number, line⟩ := first
    obtain ⟨hresult, halike, hsurroundings⟩ := a.loadLine_described line
    rw [loadLines, List.map_cons, List.filterMap_cons, ← hresult]
    generalize a.loadLine line = read at halike hsurroundings ⊢
    obtain ⟨b, result⟩ := read
    dsimp only at halike hsurroundings ⊢
    -- the later lines are read as if the first were not there
    have hlater : ∀ log, let c : Adapter π := { b with log }
        (loadLines rest c).2 = (rest.map (·.2)).filterMap a.described? ∧
          a.Alike (loadLines rest c).1 ∧ (loadLines rest c).1.surroundings = a.surroundings := by
      intro log c
      have halike : a.Alike c := halike.logged log
      obtain ⟨hrest, hthen, hkept⟩ := ih c
      refine ⟨hrest.trans ?_, halike.trans hthen, hkept.trans hsurroundings⟩
      exact congrArg (fun f => List.filterMap f _) (funext fun line => halike.described? line)
    cases result with
    | error e => exact hlater _
    | ok loaded =>
      obtain ⟨hrest, hthen, hkept⟩ := hlater b.log
      exact ⟨congrArg (loaded :: ·) hrest, hthen, hkept⟩

/-- The lines that describe nothing make no difference. -/
theorem entries_eq_of_lines {text other : String}
    (h : (Split.every (· = '\n') other.toList).filter (a.entry? · |>.isSome) =
      (Split.every (· = '\n') text.toList).filter (a.entry? · |>.isSome)) :
    a.entries other = a.entries text := by
  have hfilter : ∀ l : List (List Char),
      l.filterMap a.entry? = (l.filter (a.entry? · |>.isSome)).filterMap a.entry? := by
    intro l
    rw [List.filterMap_filter]
    refine congrArg (List.filterMap · l) (funext fun line => ?_)
    cases a.entry? line <;> rfl
  unfold entries
  rw [hfilter, h, ← hfilter]

/-- Whether blank lines are left out before they are read makes no difference. -/
theorem filterMap_lines (a : Adapter π) (text : String) :
    ((Store.lines text).map (·.2)).filterMap a.described? = a.entries text := by
  unfold Store.lines entries
  dsimp only
  rw [Store.map_numbered]
  induction Split.every (· = '\n') text.toList with
  | nil => rfl
  | cons line rest ih =>
    rw [List.map_cons, List.filter_cons, List.filterMap_cons, ← ih]
    by_cases hblank : Blank.trimChars line = []
    · have hnone : a.entry? line = none := by
        unfold entry?
        rw [hblank]
        exact a.described?_empty
      rw [hnone]
      simp [hblank]
    · simp only [ne_eq, hblank, not_false_eq_true, decide_true, if_true, List.map_cons,
        List.filterMap_cons]
      rfl

/-- A store that can be read is read as what its lines describe. -/
theorem readStore_entries {text : String} (h : a.surroundings.files.readText a.path = .ok text) :
    a.readStore.2 = .ok (a.entries text) ∧ a.Alike a.readStore.1 ∧
      a.readStore.1.surroundings = a.surroundings := by
  obtain ⟨hresult, halike, hsurroundings⟩ := loadLines_described (Store.lines text) a
  rw [filterMap_lines] at hresult
  unfold readStore
  rw [h]
  exact ⟨congrArg Except.ok hresult, halike, hsurroundings⟩

/-- A store that cannot be read fails the call, and nothing is done. -/
theorem load_unreadable {cause : FileError}
    (h : a.surroundings.files.readText a.path = .error cause) :
    a.load = (a, .error (if cause = .notFound then .storeNotFound a.path else .file cause)) := by
  unfold load readStore
  rw [h]
  cases cause <;> rfl

/-- A store that can be read is put into the registry. -/
theorem load_entries {a : Adapter π} {text : String}
    (h : a.surroundings.files.readText a.path = .ok text) :
    a.load.2 = .ok (a.entries text).length ∧
      a.load.1.registry = a.registry.installAll (a.entries text) ∧
      a.load.1.surroundings = a.surroundings := by
  obtain ⟨hresult, -, hsurroundings⟩ := readStore_entries h
  have hregistry := a.readStore_registry
  unfold load
  generalize a.readStore = read at hresult hsurroundings hregistry ⊢
  obtain ⟨b, result⟩ := read
  obtain rfl : result = _ := hresult
  refine ⟨rfl, ?_, hsurroundings⟩
  exact congrArg (Registry.installAll · (a.entries text)) hregistry

end Adapter

/-! ## The registry -/

namespace Registry

/-- One registry is the other with things put in, first to last. -/
structure Merged (r : Registry) (loaded : List (StoredFeed × Reader)) (r' : Registry) : Prop where
  /-- Under an id stands the last thing with that id, and it is not polled. -/
  last : ∀ (k : Nat) (e : StoredFeed × Reader), loaded[k]? = some e →
    (∀ (j : Nat) (d : StoredFeed × Reader), k < j → loaded[j]? = some d → d.1.id ≠ e.1.id) →
    r'.feed? e.1.id = some
      { channel := e.1.channel, source := r.sources.length + k, interval := .interval e.2.interval }
  others : ∀ id, (∀ e ∈ loaded, e.1.id ≠ id) → r'.feed? id = r.feed? id
  sources : r'.sources =
    r.sources ++ loaded.map fun e => { reader := e.2, snapshot := e.2.metadata }
  pollers : r'.pollers = halted (loaded.map (·.1.id)) r.pollers

variable {r : Registry}

theorem feed?_installAll_of_ne {loaded : List (StoredFeed × Reader)} {id : String}
    (h : ∀ e ∈ loaded, e.1.id ≠ id) : (r.installAll loaded).feed? id = r.feed? id := by
  induction loaded generalizing r with
  | nil => rfl
  | cons e rest ih =>
    obtain ⟨hfirst, hrest⟩ := List.forall_mem_cons.mp h
    show ((r.install e.1.id e.1.channel e.2).installAll rest).feed? id = _
    rw [ih hrest, feed?_install, if_neg hfirst.symm]

theorem feed?_installAll_last {loaded : List (StoredFeed × Reader)} {k : Nat}
    {e : StoredFeed × Reader} (he : loaded[k]? = some e)
    (hlast : ∀ (j : Nat) (d : StoredFeed × Reader),
      k < j → loaded[j]? = some d → d.1.id ≠ e.1.id) :
    (r.installAll loaded).feed? e.1.id = some
      { channel := e.1.channel, source := r.sources.length + k,
        interval := .interval e.2.interval } := by
  induction loaded generalizing r k with
  | nil => cases he
  | cons first rest ih =>
    show ((r.install first.1.id first.1.channel first.2).installAll rest).feed? e.1.id = _
    cases k with
    | zero =>
      obtain rfl : first = e := Option.some.inj he
      rw [feed?_installAll_of_ne, feed?_install, if_pos rfl]
      · rfl
      · intro d hd
        obtain ⟨j, hj⟩ := List.mem_iff_getElem?.mp hd
        exact hlast (j + 1) d (Nat.succ_pos j) hj
    | succ k =>
      rw [ih he fun j d hj hd => hlast (j + 1) d (Nat.succ_lt_succ hj) hd, sources_install,
        List.length_append, List.length_singleton, Nat.add_assoc, Nat.add_comm 1]

theorem Wired.merged (hw : Wired r) (loaded : List (StoredFeed × Reader)) :
    r.Merged loaded (r.installAll loaded) where
  last _ _ he hlast := feed?_installAll_last he hlast
  others _ h := feed?_installAll_of_ne h
  sources := sources_installAll loaded r
  pollers := pollers_installedAll loaded hw

end Registry

/-- **Loading is a merge that bad lines cannot disturb.** In any state that calls and pollers lead to,
a store that cannot be read changes nothing. Otherwise the call gives the number of the lines that
describe a thing, and puts the things in, first to last. Two texts with the same lines that describe a
thing, in the same order, give the same number and the same registry, whatever lines stand between
these. -/
theorem load_merges [Publisher π] (start : Adapter π) (history : List (Move π)) {a : Adapter π}
    (hreached : (Machine.run history (Machine.begin start)).adapter = a) :
    (∀ cause, a.surroundings.files.readText a.path = .error cause →
      a.load = (a, .error (if cause = .notFound then .storeNotFound a.path else .file cause))) ∧
    (∀ text, a.surroundings.files.readText a.path = .ok text →
      a.load.2 = .ok (a.entries text).length ∧
        a.registry.Merged (a.entries text) a.load.1.registry ∧
        a.load.1.surroundings = a.surroundings) ∧
    ∀ (s : Surroundings) (text other : String),
      a.surroundings.files.readText a.path = .ok text → s.files.readText a.path = .ok other →
      (Split.every (· = '\n') other.toList).filter (a.entry? · |>.isSome) =
        (Split.every (· = '\n') text.toList).filter (a.entry? · |>.isSome) →
      (a.amid s).load.2 = a.load.2 ∧ (a.amid s).load.1.registry = a.load.1.registry := by
  have hw : a.registry.Wired := hreached ▸ Machine.wired_reached start history
  refine ⟨fun cause h => Adapter.load_unreadable h, fun text h => ?_,
    fun s text other h hother hsame => ?_⟩
  · obtain ⟨hcount, hregistry, hsurroundings⟩ := Adapter.load_entries h
    exact ⟨hcount, hregistry ▸ hw.merged _, hsurroundings⟩
  · obtain ⟨hcount, hregistry, -⟩ := Adapter.load_entries h
    obtain ⟨hcountOther, hregistryOther, -⟩ := (a.amid s).load_entries hother
    have hentries : (a.amid s).entries other = a.entries text := Adapter.entries_eq_of_lines hsame
    rw [hentries] at hcountOther hregistryOther
    exact ⟨hcountOther.trans hcount.symm, hregistryOther.trans hregistry.symm⟩

/-- Surroundings with a store that holds a text. -/
def storing (text : String) : Surroundings where
  files := ⟨[(["dbreader.cfg".toList], .file (Utf8.bytes text))]⟩

theorem readText_storing (text : String) :
    (storing text).files.readText "dbreader.cfg" = .ok text := by
  have hread : (storing text).files.read "dbreader.cfg" = .ok (Utf8.bytes text) := rfl
  unfold Files.readText
  rw [hread]
  simp only [bind, Except.bind, Utf8.decode?_bytes]
  rfl

/-- The line of a thing that is there, and of one that is not. -/
def replaced : String :=
  "\x7b\"id\":\"t\",\"channel_id\":\"d\",\"metadata\":\x7b\"filename\":\"\"\x7d\x7d"

def added : String :=
  "\x7b\"id\":\"v\",\"channel_id\":\"d\",\"metadata\":\x7b\"filename\":\"\"\x7d\x7d"

/-- The two lines with a blank one and one that is cut off between them. -/
def disturbed : String := replaced ++ "\n \n\x7b\n" ++ added

def undisturbed : String := replaced ++ "\n" ++ added

/-- Two things are polled, and the store is another. -/
def besideDisturbed : Adapter LogPublisher :=
  (Machine.run (polledThings ++ [.outside .zero (storing disturbed) unscheduled.publisher])
    (Machine.begin unscheduled)).adapter

theorem load_merges_disturbed :
    besideDisturbed.registry.ids = ["t", "u"] ∧
      (besideDisturbed.entries disturbed).map (·.1.id) = ["t", "v"] ∧
      besideDisturbed.load.2 = .ok (besideDisturbed.entries disturbed).length ∧
      besideDisturbed.registry.Merged (besideDisturbed.entries disturbed)
        besideDisturbed.load.1.registry ∧
      (besideDisturbed.amid (storing undisturbed)).load.1.registry =
        besideDisturbed.load.1.registry := by
  have hreached : (Machine.run
      (polledThings ++ [.outside .zero (storing disturbed) unscheduled.publisher])
      (Machine.begin unscheduled)).adapter = besideDisturbed := by
    rw [besideDisturbed]
  have hpath : besideDisturbed.path = "dbreader.cfg" := by decide +kernel
  have hsurroundings : besideDisturbed.surroundings = storing disturbed := by
    rw [besideDisturbed, Machine.run, List.foldl_append]
    rfl
  have htext : besideDisturbed.surroundings.files.readText besideDisturbed.path = .ok disturbed := by
    rw [hpath, hsurroundings]
    exact readText_storing disturbed
  have hother : (storing undisturbed).files.readText besideDisturbed.path = .ok undisturbed :=
    hpath ▸ readText_storing undisturbed
  -- the lines between the two describe nothing
  have hlines : Split.every (· = '\n') disturbed.toList =
      [replaced.toList, [' '], ['\x7b'], added.toList] := by decide +kernel
  have hfewer : Split.every (· = '\n') undisturbed.toList = [replaced.toList, added.toList] := by
    decide +kernel
  have hblank : (besideDisturbed.entry? [' ']).isSome = false := by decide +kernel
  have hcut : (besideDisturbed.entry? ['\x7b']).isSome = false := by decide +kernel
  have hids : (besideDisturbed.entries disturbed).map (·.1.id) = ["t", "v"] := by decide +kernel
  obtain ⟨-, hloads, hsame⟩ := load_merges unscheduled _ hreached
  obtain ⟨hcount, hmerged, -⟩ := hloads disturbed htext
  obtain ⟨-, hregistry⟩ := hsame (storing undisturbed) disturbed undisturbed htext hother (by
    simp [hlines, hfewer, hblank, hcut, List.filter_cons])
  exact ⟨by decide +kernel, hids, hcount, hmerged, hregistry⟩

end TableFeed
