import TableFeed.Proofs.Registry.Kept
import TableFeed.Proofs.Source.Files
import TableFeed.Publishing.LogPublisher

/-!
# A registry survives its store

Saving a registry and loading the store into an empty one gives the registry back: its things in the
order of their ids, with their channels and the metadata of their readers.

* **`loadLine_render`** — the line of a thing is loaded as that thing, with a reader whose metadata
  is the thing's.
* **`stored_install`** — a thing whose id comes behind all others is put behind them.
* **`save_load`** — the crux, for every state that a run leads to.
-/

namespace TableFeed

variable {π : Type} {kind : ReaderKind}

/-! ## What the store keeps of a thing -/

/-- The interval in a thing's metadata. -/
def StoredFeed.interval? (f : StoredFeed) : Option Binary64 :=
  match f.metadata with
  | .object fields =>
    match Json.field? "interval" fields with
    | some (.float x) => some x
    | _ => none
  | _ => none

theorem Reader.Settled.interval?_metadata {reader : Reader} (h : reader.Settled kind)
    (id channel : String) : StoredFeed.interval? ⟨id, channel, reader.metadata⟩ = some reader.interval := by
  cases h with
  | file h =>
    rename_i r
    have hnumber : Json.ofBinary64 r.interval = .float r.interval := if_pos h.interval.isFinite
    show StoredFeed.interval? ⟨id, channel, r.metadata⟩ = some r.interval
    unfold FileReader.metadata FileReader.optionalField
    rw [hnumber]
    split <;> split <;> rfl
  | sql h =>
    rename_i r
    have hnumber : Json.ofBinary64 r.interval = .float r.interval := if_pos h.interval.isFinite
    show StoredFeed.interval? ⟨id, channel, r.metadata⟩ = some r.interval
    unfold SqlReader.metadata
    rw [hnumber]
    rfl

/-- A settled reader has the metadata of a thing, and the interval in it is read as it is written. -/
def StoredFeed.DescribedBy (f : StoredFeed) (kind : ReaderKind) (reader : Reader) : Prop :=
  reader.Settled kind ∧ f.metadata = reader.metadata ∧ Json.Exact reader.interval

namespace Registry

/-- Every thing of the store is described by a settled reader. -/
theorem stored_described {r : Registry} (hwired : r.Wired) (hkept : r.Kept kind)
    (hexact : ∀ f ∈ r.stored, ∀ x ∈ f.interval?, Json.Exact x) :
    ∀ f ∈ r.stored, ∃ reader, f.DescribedBy kind reader := by
  intro f hf
  have hinterval := hexact f hf
  obtain ⟨⟨id, feed⟩, hfeed, rfl⟩ := List.mem_map.mp hf
  have hbound := hwired.bound id feed ((lookup_eq_some_iff hwired.ordered).mpr hfeed)
  obtain ⟨hsnapshot, hsettled⟩ := hkept _ (List.getElem_mem hbound)
  refine ⟨r.sources[feed.source].reader, hsettled, ?_, ?_⟩
  · simp only [List.getElem?_eq_getElem hbound]
    exact hsnapshot
  · simp only [List.getElem?_eq_getElem hbound, hsnapshot,
      hsettled.interval?_metadata] at hinterval
    exact hinterval _ rfl

/-! ## Putting things behind others -/

/-- A feed whose id comes behind all others is put behind them. -/
theorem putFeed_last {id : String} (f : Feed) {l : List (String × Feed)}
    (h : ∀ e ∈ l, e.1 < id) : putFeed id f l = l ++ [(id, f)] := by
  induction l with
  | nil => rfl
  | cons e rest ih =>
    obtain ⟨i, g⟩ := e
    have hi : i < id := h (i, g) List.mem_cons_self
    rw [putFeed, if_neg (ne_of_lt hi), if_neg (not_lt_of_gt hi),
      ih fun d hd => h d (List.mem_cons_of_mem _ hd)]
    rfl

/-- A thing whose id comes behind all others is put behind them. -/
theorem stored_install {r : Registry} (hwired : r.Wired) {id : String} (channel : String)
    (reader : Reader) (hafter : ∀ d ∈ r.stored, d.id < id) :
    (r.install id channel reader).stored = r.stored ++ [⟨id, channel, reader.metadata⟩] := by
  have h : ∀ e ∈ r.feeds, e.1 < id := fun e he => hafter _ (List.mem_map_of_mem he)
  have hnone : r.feed? id = none := by
    cases hf : r.feed? id with
    | none => rfl
    | some f => exact absurd (h (id, f) (mem_of_lookup hf)) (lt_irrefl id)
  have hpoller : r.poller? id = none := by
    unfold poller?
    rw [hnone]
    rfl
  have hinstall : r.install id channel reader =
      { r with
        sources := r.sources ++ [{ reader, snapshot := reader.metadata }]
        feeds := r.feeds ++ [(id, r.newFeed channel reader)] } := by
    unfold install
    rw [hpoller, ← putFeed_last _ h]
    rfl
  rw [hinstall]
  unfold stored
  dsimp only
  rw [List.map_append]
  congr 1
  · refine List.map_congr_left ?_
    rintro ⟨i, f⟩ he
    have hbound := hwired.bound i f ((lookup_eq_some_iff hwired.ordered).mpr he)
    simp only [List.getElem?_append_left hbound]
  · simp [newFeed]

/-- Things in the order of their ids, all behind those that are there, are put behind them. -/
theorem stored_installAll {loaded : List (StoredFeed × Reader)} {r : Registry}
    (hwired : r.Wired) (hafter : ∀ e ∈ loaded, ∀ d ∈ r.stored, d.id < e.1.id)
    (hincreasing : loaded.Pairwise fun d e => d.1.id < e.1.id)
    (hmetadata : ∀ e ∈ loaded, e.1.metadata = e.2.metadata) :
    (r.installAll loaded).stored = r.stored ++ loaded.map (·.1) := by
  induction loaded generalizing r with
  | nil => exact (List.append_nil _).symm
  | cons e rest ih =>
    obtain ⟨f, reader⟩ := e
    obtain ⟨hfirst, hrest⟩ := List.pairwise_cons.mp hincreasing
    have hbehind := hafter (f, reader) List.mem_cons_self
    have hstored := stored_install hwired f.channel reader hbehind
    have hf : (⟨f.id, f.channel, reader.metadata⟩ : StoredFeed) = f := by
      rw [← hmetadata (f, reader) List.mem_cons_self]
    show ((r.install f.id f.channel reader).installAll rest).stored = _
    rw [hf] at hstored
    rw [ih (hwired.install f.id f.channel reader) ?_ hrest
      (fun d hd => hmetadata d (List.mem_cons_of_mem _ hd)), hstored, List.append_assoc]
    · rfl
    · intro e he d hd
      rw [hstored] at hd
      rcases List.mem_append.mp hd with hd | hd
      · exact hafter e (List.mem_cons_of_mem _ he) d hd
      · rw [List.mem_singleton.mp hd]
        exact hfirst e he

end Registry

namespace Adapter

/-! ## Loading lines -/

/-- The line of a thing is loaded as that thing, with the reader that it is described by. -/
theorem loadLine_render {a : Adapter π} {f : StoredFeed} {reader : Reader}
    (h : f.DescribedBy a.kind reader) :
    (a.loadLine f.toJson.render).2 = .ok (f, reader) := by
  obtain ⟨hsettled, hmetadata, hexact⟩ := h
  have hparse : StoredFeed.parse f.toJson.render = .ok f := by
    refine f.parse_line ?_
    rw [hmetadata]
    exact Reader.reads_metadata hsettled hexact _
  obtain ⟨unprepared, hmake, hprepare⟩ :=
    Reader.ofMetadata_metadata hsettled a.access
  have hbuild : (a.build f.metadata).2 = .ok reader := by
    unfold build
    rw [hmetadata, hmake]
    dsimp only
    rw [← hprepare]
  unfold loadLine
  rw [hparse]
  dsimp only
  generalize a.build f.metadata = built at hbuild ⊢
  obtain ⟨b, result⟩ := built
  obtain rfl : result = .ok reader := hbuild
  rfl

/-- Lines of things are loaded as these things. -/
theorem loadLines_render {l : List StoredFeed} {a : Adapter π} {lines : List (Nat × String)}
    (hlines : lines.map (·.2) = l.map fun f => f.toJson.render)
    (hl : ∀ f ∈ l, ∃ reader, f.DescribedBy a.kind reader) :
    (loadLines lines a).2.map (·.1) = l ∧
      ∀ e ∈ (loadLines lines a).2, e.1.metadata = e.2.metadata := by
  induction l generalizing a lines with
  | nil =>
    rw [List.map_eq_nil_iff.mp hlines]
    exact ⟨rfl, List.forall_mem_nil _⟩
  | cons f l ih =>
    obtain ⟨⟨number, line⟩, lines, rfl, hline, hrest⟩ := List.map_eq_cons_iff.mp hlines
    obtain ⟨reader, hreader⟩ := hl f List.mem_cons_self
    obtain rfl : line = f.toJson.render := hline
    have hloaded := loadLine_render hreader
    have hkind := a.loadLine_kind f.toJson.render
    rw [loadLines]
    generalize a.loadLine f.toJson.render = read at hloaded hkind ⊢
    obtain ⟨b, result⟩ := read
    obtain rfl : result = .ok (f, reader) := hloaded
    dsimp only at hkind ⊢
    obtain ⟨hfeeds, hmetadata⟩ := ih hrest (hkind ▸ fun g hg => hl g (List.mem_cons_of_mem f hg))
    generalize loadLines lines b = more at hfeeds hmetadata ⊢
    obtain ⟨c, loaded⟩ := more
    refine ⟨congrArg (f :: ·) hfeeds, ?_⟩
    intro e he
    rcases List.mem_cons.mp he with rfl | he
    · exact hreader.2.1
    · exact hmetadata e he

/-- A store with the lines of things is loaded into an empty registry as these things. -/
theorem load_text {l : List StoredFeed} {a : Adapter π} (hempty : a.registry = {})
    (htext : a.surroundings.files.readText a.path = .ok (Store.text l))
    (hl : ∀ f ∈ l, ∃ reader, f.DescribedBy a.kind reader)
    (hincreasing : l.Pairwise fun f g => f.id < g.id) :
    a.load.2 = .ok l.length ∧ a.load.1.registry.stored = l := by
  obtain ⟨hfeeds, hmetadata⟩ := loadLines_render (Store.lines_text l) hl
  have hregistry := loadLines_registry (Store.lines (Store.text l)) a
  have hread : a.readStore = ((loadLines (Store.lines (Store.text l)) a).1,
      .ok (loadLines (Store.lines (Store.text l)) a).2) := by
    unfold readStore
    rw [htext]
  unfold load
  rw [hread]
  generalize loadLines (Store.lines (Store.text l)) a = read at hfeeds hmetadata hregistry ⊢
  obtain ⟨b, loaded⟩ := read
  dsimp only at hfeeds hmetadata hregistry ⊢
  constructor
  · rw [← hfeeds, List.length_map]
  · have hordered : loaded.Pairwise fun d e => d.1.id < e.1.id := by
      rw [← hfeeds, List.pairwise_map] at hincreasing
      exact hincreasing
    show (b.registry.installAll loaded).stored = l
    rw [hregistry, hempty, Registry.stored_installAll Registry.wired_empty
      (fun _ _ d hd => by cases hd) hordered hmetadata, hfeeds]
    rfl

/-- What is in the file of the store. -/
def storeBytes (a : Adapter π) : Except FileError (List UInt8) :=
  a.surroundings.files.read a.path

/-- The adapter with an empty registry that loads the store. -/
def reload (a : Adapter π) : Adapter π × Except Error Nat :=
  ({ a with registry := {} } : Adapter π).load

/-- Saving writes the text of the registry. -/
theorem save_storeBytes {a : Adapter π} (h : a.save.2 = none) :
    a.save.1.storeBytes = .ok (Utf8.bytes a.registry.storeText) := by
  unfold save writeStore at h ⊢
  generalize hwrite : a.surroundings.write a.path (Utf8.bytes a.registry.storeText) = written at h ⊢
  obtain ⟨s, _ | cause⟩ := written
  · exact Surroundings.read_write hwrite
  · cases h

end Adapter

/-- **Saving and loading.** In any state that a run leads to, a registry that is saved is what an
empty registry with the same kind of readers becomes when it loads the store: every line is loaded,
and the things are the same, with the same channels and the same metadata. Saving that registry
writes the same bytes. The store has one line for each thing, in the order of their ids.

Files are shorter than memory along the run, and the numbers of the intervals are read as they are
written. -/
theorem save_load [Publisher π] (a : Adapter π) (history : List (Move π)) {before : Adapter π}
    (hreached : (Machine.run history (Machine.begin a)).adapter = before)
    (hfits : (Machine.begin a).FitsAlong history)
    (hexact : ∀ f ∈ before.registry.stored, ∀ x ∈ f.interval?, Json.Exact x)
    (hwritten : before.save.2 = none) :
    before.save.1.reload.2 = .ok before.registry.feeds.length ∧
      before.save.1.reload.1.registry.stored = before.registry.stored ∧
      (before.save.1.reload.1.save.2 = none →
        before.save.1.reload.1.save.1.storeBytes = before.save.1.storeBytes) ∧
      ∃ text : String, before.save.1.storeBytes = .ok (Utf8.bytes text) ∧
        Split.every (· = '\n') text.toList =
          before.registry.stored.map Store.lineChars ++ [[]] ∧
        before.registry.stored.Pairwise fun f g => f.id < g.id := by
  have hwired : before.registry.Wired := hreached ▸ Machine.wired_reached a history
  have hkept : before.registry.Kept before.kind :=
    hreached ▸ (Machine.Kept.run history ⟨Registry.kept_empty _, List.forall_mem_nil _⟩
      hfits).sources
  have hincreasing : before.registry.stored.Pairwise fun f g => f.id < g.id :=
    List.pairwise_map.mpr hwired.ordered
  have hbytes : before.save.1.storeBytes = .ok (Utf8.bytes before.registry.storeText) :=
    Adapter.save_storeBytes hwritten
  have htext : before.save.1.surroundings.files.readText before.save.1.path =
      .ok before.registry.storeText := by
    unfold Files.readText
    rw [← Adapter.storeBytes, hbytes]
    simp only [bind, Except.bind, Utf8.decode?_bytes]
    rfl
  have hkind : before.save.1.kind = before.kind := before.writeStore_kind _
  obtain ⟨hcount, hstored⟩ := Adapter.load_text (a := { before.save.1 with registry := {} }) rfl
    htext (hkind ▸ Registry.stored_described hwired hkept hexact) hincreasing
  refine ⟨?_, hstored, ?_, _, hbytes, Store.every_text _, hincreasing⟩
  · rw [Adapter.reload, hcount]
    exact congrArg Except.ok (List.length_map _)
  · intro hagain
    have hsame : before.save.1.reload.1.registry.storeText = before.registry.storeText :=
      congrArg Store.text hstored
    have hagainBytes := Adapter.save_storeBytes hagain
    rw [hsame] at hagainBytes
    exact hagainBytes.trans hbytes.symm

/-- An adapter beside a file with one row. -/
def oneRow : Adapter LogPublisher where
  surroundings := { files := ⟨[(["a.csv".toList], .file (Utf8.bytes "h\n1\n"))]⟩ }
  publisher := {}

/-- Two creations, the second of an id that comes first, and a poll of the first. -/
def twoThings : List (Move LogPublisher) :=
  [.ask (.create "t\n\"é" "c" "\x7b\"filename\":\"a.csv\",\"columns\":\" h \"\x7d"), .advance 0,
    .advance 0,
    .ask (.create "a" "d" "\x7b\"filename\":\"b.csv\",\"interval\":2.5\x7d"), .advance 0, .advance 0,
    .ask (.schedule "t\n\"é" false), .advance 0,
    .outside (.ofSeconds Duration.defaultIntervalSeconds) oneRow.surroundings oneRow.publisher,
    .tick 0, .hold 0, .read 0]

def twoThingsKept : Adapter LogPublisher :=
  (Machine.run twoThings (Machine.begin oneRow)).adapter

/-- Ids with a line end and a quote, an interval that was given and one that was not, and a position
behind the row that was read. -/
theorem save_load_twoThings :
    twoThingsKept.registry.ids = ["a", "t\n\"é"] ∧
      twoThingsKept.registry.sources.map (fun s => s.reader.metadata.render) =
        ["\x7b\"filename\":\"a.csv\",\"columns\":\" h \",\"interval\":60.0,\"header_pos\":1\x7d",
          "\x7b\"filename\":\"b.csv\",\"interval\":2.5,\"header_pos\":0\x7d"] ∧
      twoThingsKept.save.1.reload.2 = .ok twoThingsKept.registry.feeds.length ∧
      twoThingsKept.save.1.reload.1.registry.stored = twoThingsKept.registry.stored := by
  have hreached : (Machine.run twoThings (Machine.begin oneRow)).adapter = twoThingsKept := by
    rw [twoThingsKept]
  have hfits : (Machine.begin oneRow).FitsAlong twoThings := by decide +kernel
  have hexact : ∀ f ∈ twoThingsKept.registry.stored, ∀ x ∈ f.interval?, Json.Exact x := by
    decide +kernel
  have hwritten : twoThingsKept.save.2 = none := by decide +kernel
  have hids : twoThingsKept.registry.ids = ["a", "t\n\"é"] := by decide +kernel
  have hmetadata : twoThingsKept.registry.sources.map (fun s => s.reader.metadata.render) =
      ["\x7b\"filename\":\"a.csv\",\"columns\":\" h \",\"interval\":60.0,\"header_pos\":1\x7d",
        "\x7b\"filename\":\"b.csv\",\"interval\":2.5,\"header_pos\":0\x7d"] := by
    decide +kernel
  have h := save_load oneRow twoThings hreached hfits hexact hwritten
  exact ⟨hids, hmetadata, h.1, h.2.1⟩

end TableFeed
