import TableFeed.Proofs.Events.Foreign
import TableFeed.Proofs.Json.Trimmed
import TableFeed.Proofs.Service.Deeds
import TableFeed.Publishing.LogPublisher

/-!
# A thing by an entry is the thing by a call

A thing is created by a call, with the text of what describes its source, or by an entry, whose metadata
has that text inside. The entry's way is the longer one: the metadata is read, the description in it
written anew, and that text is read again. The outcome is the same, to the last line of the log.

* **`createThing_congr`** — a call depends on its text by what it denotes and by whether it is blank.
* **`Spells`** — so it is the same for all texts that spell a value: `createThing_spelled`.
* **`provision_described`** — the crux: what an entry says a thing is to be made of, if its metadata is an
  object that has the tag of this adapter, a channel and a text among its members.
* **`created_by_entry`** — an entry does what the call with that text does.
-/

namespace TableFeed

open Json (IsObject IsSpacing Member Prints Written denoted? isSome_mapM mapM_mem mem_of_mapM)
open Json.Read (maxDepth)

/-! ## Calls with one meaning -/

/-- A text that is a value, with white space around it. -/
def Spells (source : String) (v : Json) : Prop :=
  ∃ d before cs after, d ≤ maxDepth ∧ Prints d cs v ∧ IsSpacing before ∧ IsSpacing after ∧
    source.toList = before ++ (cs ++ after)

theorem Spells.parse {source : String} {v : Json} (h : Spells source v) :
    Json.parse source = .ok v := by
  obtain ⟨d, before, cs, after, hd, ⟨hwritten, hdenoted⟩, hbefore, hafter, hsource⟩ := h
  have hsettles := Json.settles_denoted hwritten hd hd
  rw [← toOption_eq_some, ← String.ofList_toList (s := source), hsource, ← hdenoted]
  exact Json.denoted?_spaced hbefore hafter hsettles

/-- What a value that was read is written as spells it, if its floating-point numbers are read as what
they are written as. -/
theorem Spells.render {source : String} {v : Json} (h : Spells source v)
    (hexact : ∀ x ∈ v.floats, Json.Exact x) : Spells v.render v := by
  obtain ⟨d, -, cs, -, hd, ⟨hwritten, hdenoted⟩, -⟩ := h
  have hfaithful := Json.faithful_of_written hwritten hd hdenoted hexact
  have hnone : IsSpacing [] := List.forall_mem_nil _
  refine ⟨d, [], _, [], hd, hfaithful.printed hd, hnone, hnone, ?_⟩
  rw [Json.render, String.toList_ofList, List.append_nil]
  rfl

/-- Trimmed, such a text still denotes its value, and it is blank if that is null. -/
theorem Spells.trimmed {source : String} {v : Json} (h : Spells source v) :
    Json.parse (Blank.trim source) = .ok v ∧
      (Adapter.isBlankMetadata (Blank.trim source) = true ↔ v = .null) := by
  obtain ⟨d, before, cs, after, hd, hprints, hbefore, hafter, hsource⟩ := h
  obtain ⟨hfirst, hlast⟩ := Json.written_ends hprints.1
  obtain ⟨c, tail, hcs, -⟩ := Json.Read.written_leads hprints.1
  have hne : cs ≠ [] := hcs ▸ List.cons_ne_nil c tail
  have htrim : Blank.trim source = String.ofList cs := by
    rw [Blank.trim, hsource, Blank.trimChars, Blank.trimBy_spaced hne (Json.isBlank_spacing hbefore)
      (Json.isBlank_spacing hafter) hfirst hlast]
  have hnull : String.ofList cs = "null" ↔ v = .null := by
    rw [← Json.written_null hprints hd]
    constructor
    · intro heq
      rw [← heq, String.toList_ofList]
    · rintro rfl
      exact String.ofList_toList
  have hsome : (String.ofList cs).isEmpty = false := by
    simpa [String.isEmpty_iff] using hne
  rw [htrim]
  refine ⟨toOption_eq_some.mp hprints.2, ?_⟩
  rw [Adapter.isBlankMetadata, hsome, Bool.false_or, decide_eq_true_eq, hnull]

namespace Adapter

variable {π : Type}

/-- The creation of a thing depends on what its text denotes, and on whether it is blank. -/
theorem createThing_congr (a : Adapter π) (id channel : String) {s t : String}
    (hparse : Json.parse (Blank.trim s) = Json.parse (Blank.trim t))
    (hblank : isBlankMetadata (Blank.trim s) = isBlankMetadata (Blank.trim t)) :
    a.createThing id channel s = a.createThing id channel t := by
  unfold createThing install prepare
  simp only [hparse, hblank]

variable [Publisher π]

theorem createThing_spelled (traced : Bool) (a : Adapter π) (id channel : String) {s t : String}
    {v : Json} (hs : Spells s v) (ht : Spells t v) :
    (serviceFor traced).createThing id channel s a =
      (serviceFor traced).createThing id channel t a := by
  obtain ⟨hparse, hblank⟩ := hs.trimmed
  obtain ⟨hparse', hblank'⟩ := ht.trimmed
  have hcall : (service (π := π)).createThing id channel s = service.createThing id channel t := by
    funext b
    rw [service_createThing, service_createThing]
    exact b.createThing_congr id channel (hparse.trans hparse'.symm)
      (Bool.eq_iff_iff.mpr (hblank.trans hblank'.symm))
  cases traced with
  | false => rw [serviceFor_false, hcall]
  | true => rw [serviceFor_true, Service.traced_createThing, Service.traced_createThing, hcall]

end Adapter

/-! ## Metadata for this adapter -/

section Members

variable {ms : List Member} {m m' : Member} {name : String}

theorem settles_unique {read : List UInt8 → Json.Read.Reading Json} {text : List UInt8}
    {o o' : Option Json} (h : Json.Read.Settles read text o) (h' : Json.Read.Settles read text o') :
    o = o' := by
  have heq := (h [] fun b hb => nomatch hb).symm.trans (h' [] fun b hb => nomatch hb)
  cases o <;> cases o' <;> simp_all

/-- The members of an object that is accepted all denote something, and they nest no deeper than is
accepted, whatever the bound on the grammar. -/
theorem accepted_members {n : Nat} {cs : List Char} (h : IsObject n ms cs)
    (haccepted : (denoted? cs).isSome = true) :
    IsObject (maxDepth - 1) ms cs ∧
      ∀ m ∈ ms, m.name?.isSome = true ∧ m.value?.isSome = true := by
  obtain ⟨before, space, after, hbefore, hspace, hafter, hcs⟩ := h.text
  obtain ⟨outcome, houtcome⟩ := Json.Read.exists_outcomes fun m hm =>
    Json.written_within (h.values m hm) (maxDepth - 1)
  have hsettles : Json.Read.Settles (Json.Read.value maxDepth) _
      (Json.Read.objectOutcome Member.name? outcome ms) :=
    Json.Read.object_settles hspace fun m hm => ⟨h.members m hm,
      (Json.settles_text (h.members m hm).name).1, (houtcome m hm).1⟩
  have hdenoted := Json.denoted?_spaced hbefore hafter hsettles
  have htext : cs = before ++ (('\x7b' :: (space ++ Json.membersText true ms)) ++ after) := by
    rw [hcs, List.cons_append, List.append_assoc]
  rw [htext, hdenoted, Json.Read.objectOutcome, Option.isSome_map, isSome_mapM] at haccepted
  have hmember := fun m hm => Json.isSome_memberOutcome.mp (haccepted m hm)
  have hvalues : ∀ m ∈ ms, Written (maxDepth - 1) m.item.value := fun m hm =>
    (houtcome m hm).2 (hmember m hm).2
  refine ⟨⟨h.members, hvalues, h.text⟩, fun m hm => ⟨(hmember m hm).1, ?_⟩⟩
  have hvalue := Json.settles_denoted (hvalues m hm) (Nat.sub_le _ _) (Nat.le_refl _)
  rw [Member.value?, ← settles_unique (houtcome m hm).1 hvalue]
  exact (hmember m hm).2

/-- Names tell members apart. -/
theorem eq_of_name (hnames : (ms.filterMap Member.name?).Nodup) (hm : m ∈ ms) (hm' : m' ∈ ms)
    (hname : m.name? = some name) (hname' : m'.name? = some name) : m = m' := by
  induction ms with
  | nil => cases hm
  | cons k ms ih =>
    have hnew : ∀ {l : Member}, l ∈ ms → l.name? = some name → k.name? ≠ some name := by
      intro l hl hlname hk
      rw [List.filterMap_cons_some hk, List.nodup_cons] at hnames
      exact hnames.1 (List.mem_filterMap.mpr ⟨l, hl, hlname⟩)
    rcases List.mem_cons.mp hm with rfl | hin
    · rcases List.mem_cons.mp hm' with rfl | hin'
      · rfl
      · exact absurd hname (hnew hin' hname')
    · rcases List.mem_cons.mp hm' with rfl | hin'
      · exact absurd hname' (hnew hin hname)
      · refine ih ?_ hin hin'
        cases hk : k.name? with
        | none => rwa [List.filterMap_cons_none hk] at hnames
        | some n =>
          rw [List.filterMap_cons_some hk, List.nodup_cons] at hnames
          exact hnames.2

/-- The field of a record is what the member of its name gives. -/
theorem field?_member {s : Json.Schema} (hnames : (ms.filterMap Member.name?).Nodup)
    {l : List (Option (String × Json))} (hl : ms.mapM s.fieldOutcome = some l) (hm : m ∈ ms)
    {w : Json} (h : s.fieldOutcome m = some (some (name, w))) :
    Json.field? name (l.filterMap id) = some w := by
  have hmem : (name, w) ∈ l.filterMap id := by
    obtain ⟨field, hfield, heq⟩ := mapM_mem hl hm
    rw [h] at heq
    exact List.mem_filterMap.mpr ⟨field, hfield, (Option.some.inj heq).symm⟩
  cases hfound : Json.field? name (l.filterMap id) with
  | none =>
    have hnone := List.findSome?_eq_none_iff.mp hfound (name, w) hmem
    simp at hnone
  | some u =>
    obtain ⟨⟨k, v⟩, hkv, heq⟩ := List.exists_of_findSome?_eq_some hfound
    obtain ⟨rfl, rfl⟩ : k = name ∧ v = u := by simpa using heq
    obtain ⟨field, hfield, rfl⟩ := List.mem_filterMap.mp hkv
    obtain ⟨m', hm', h'⟩ := mem_of_mapM hl hfield
    obtain rfl := eq_of_name hnames hm hm' (Json.Schema.fieldOutcome_some h).1
      (Json.Schema.fieldOutcome_some h').1
    rw [h] at h'
    cases h'
    rfl

end Members

namespace Event

/-- An entry whose metadata is an object with this adapter's tag, a channel and the text of what
describes a source among its members. -/
structure Describes (e : Entry) (ms : List Member) (channel source : String) : Prop where
  object : ∃ n, IsObject n ms (metadataText e).toList
  accepted : (Json.parse (metadataText e)).toOption.isSome = true
  names : (ms.filterMap Member.name?).Nodup
  tag : ∃ m ∈ ms, m.name? = some "type" ∧ m.value? = some (.string domainTag)
  channel : ∃ m ∈ ms, m.name? = some "channel_id" ∧ m.value? = some (.string channel)
  source : ∃ m ∈ ms, m.name? = some "db_reader_data" ∧ ∃ before after, IsSpacing before ∧
    IsSpacing after ∧ source.toList = before ++ (m.item.value ++ after)

variable {e : Entry} {ms : List Member} {channel source : String}

/-- What such an entry says: a description is read, and written anew. -/
theorem provision_described (h : Describes e ms channel source) :
    ∃ v, Spells source v ∧
      provision e = .ok ⟨e.field "id" "", channel, v.render⟩ := by
  obtain ⟨n, hobject⟩ := h.object
  have haccepted : (denoted? (metadataText e).toList).isSome = true := by
    rw [denoted?, String.ofList_toList]
    exact h.accepted
  obtain ⟨hobject, hmembers⟩ := accepted_members hobject haccepted
  obtain ⟨mt, hmt, htname, htvalue⟩ := h.tag
  obtain ⟨mc, hmc, hcname, hcvalue⟩ := h.channel
  obtain ⟨md, hmd, hdname, before, after, hbefore, hafter, hsource⟩ := h.source
  obtain ⟨v, hdvalue⟩ := Option.isSome_iff_exists.mp (hmembers md hmd).2
  have hwritten := hobject.values md hmd
  have hspells : Spells source v :=
    ⟨_, before, _, after, Nat.sub_le _ _, ⟨hwritten, hdvalue⟩, hbefore, hafter, hsource⟩
  -- every member gives what is asked for, as the ones that are asked for are these three
  have hgives : ∀ m ∈ ms, (schema.fieldOutcome m).isSome = true := by
    intro m hm
    refine (isSome_fieldOutcome m).mpr ⟨(hmembers m hm).1, fun hname => ?_, fun hname => ?_,
      fun _ => (hmembers m hm).2⟩
    · exact ⟨_, eq_of_name h.names hmt hm htname hname ▸ htvalue⟩
    · exact ⟨_, eq_of_name h.names hmc hm hcname hname ▸ hcvalue⟩
  obtain ⟨l, hl⟩ := Option.isSome_iff_exists.mp ((isSome_mapM ms).mpr hgives)
  have hfield : ∀ {m : Member} {name : String} {f : Json.Field} {w : Json}, m ∈ ms →
      m.name? = some name → schema.field? name = some f → m.value? = some w →
      f.kind.check w = .ok w → Json.field? name (l.filterMap id) = some w := by
    intro m name f w hm hname hf hvalue hcheck
    refine field?_member h.names hl hm ?_
    rw [Json.Schema.fieldOutcome, hname, hvalue, Option.bind_some, hf]
    dsimp only [Option.bind_some]
    rw [hcheck]
    rfl
  have hparse := Json.Schema.parse_members (s := schema) hobject (Nat.le_refl _) h.names
  rw [String.ofList_toList, hl, Option.bind_some, assemble_schema,
    hfield hmt htname rfl htvalue rfl, hfield hmd hdname rfl hdvalue rfl,
    hfield hmc hcname rfl hcvalue rfl] at hparse
  refine ⟨v, hspells, ?_⟩
  unfold provision
  rw [← metadataText, toOption_eq_some.mp hparse]
  exact if_neg (by simp [Json.asText])

end Event

/-- **An entry creates what a call creates.** Let an entry create or update a thing, with an object for
metadata whose members have different names: the tag of this adapter, a channel, and the text of what
describes a source, in any order, with any others and however written. Then the adapter does with the
entry what it does with the call for the thing of the entry, that channel and that text, white space
around it or not: things, sources, pollers, store and log are the same afterwards, and so is the
failure, if there is one. Of the floating-point numbers in the text it is assumed that what one of them
is written as is read as it. -/
theorem created_by_entry {π : Type} [Publisher π] (traced : Bool) (a : Adapter π) {e : Entry}
    (hop : Event.Provisions e) {ms : List Member} {channel source : String}
    (h : Event.Describes e ms channel source)
    (hexact : ∀ v, Json.parse source = .ok v → ∀ x ∈ v.floats, Json.Exact x) :
    (Adapter.serviceFor traced).process e a =
      (Adapter.serviceFor traced).createThing (e.field "id" "") channel source a := by
  obtain ⟨v, hspells, hprovision⟩ := Event.provision_described h
  have hrender := hspells.render (hexact v hspells.parse)
  rw [← Adapter.createThing_spelled traced a _ channel hrender hspells]
  unfold Service.process Event.decode
  dsimp only
  rcases hop with hop | hop
  · rw [hop, if_pos rfl, hprovision]
    rfl
  · rw [hop, if_neg (by decide), if_pos rfl, hprovision]
    rfl

/-! ## A description spelled in an odd way -/

/-- The members of a description: a name with an escape, and a number with an idle zero. -/
def oddSource : List Member :=
  [{ name := "filename".toList.map .plain
     item := { value := Json.stringText (.unicode '0' '0' '6' '1' :: ".csv".toList.map .plain) } },
    { name := "interval".toList.map .plain
      item := { before := [' '], value := (⟨false, ['1'], ['5', '0'], none⟩ : Json.NumberText).text } }]

/-- Metadata with that description. -/
def oddMetadata : List Member :=
  [{ name := "db_reader_data".toList.map .plain
     between := [' ']
     item := { before := [' '], value := '\x7b' :: ([] ++ Json.membersText true oddSource) } },
    { name := "channel_id".toList.map .plain
      item := { value := Json.stringText ("c".toList.map .plain) } },
    { name := "type".toList.map .plain
      item := { value := Json.stringText (Event.domainTag.toList.map .plain) } }]

def oddText : String :=
  "\x7b\"filename\":\"\\u0061.csv\",\"interval\": 1.50\x7d"

def oddEntry : Entry :=
  ⟨"1-0", [("operation", "thing.update"), ("id", "t"), ("metadata",
    "\x7b\"db_reader_data\" : " ++ oddText ++ ",\"channel_id\":\"c\",\"type\":\"dbReader\"\x7d")]⟩

theorem isSpacing_one {c : Char} (h : c ∈ [' ', '\t', '\n', '\r']) : IsSpacing [c] := by
  intro d hd
  rwa [List.mem_singleton.mp hd]

theorem written_oddSource : Written 1 ('\x7b' :: ([] ++ Json.membersText true oddSource)) := by
  have hnone : IsSpacing [] := List.forall_mem_nil _
  have hone : IsSpacing [' '] := isSpacing_one (by decide)
  refine .object hnone (fun m hm => ?_) fun m hm => ?_
  · rcases List.mem_pair.mp hm with rfl | rfl
    · exact ⟨hnone, by decide, hnone, hnone, hnone⟩
    · exact ⟨hnone, by decide, hnone, hone, hnone⟩
  · rcases List.mem_pair.mp hm with rfl | rfl
    · exact .string (by decide)
    · exact .number ⟨⟨'1', [], rfl, fun _ => rfl⟩, List.all_eq_true.mp rfl, List.all_eq_true.mp rfl,
        Json.NumberText.isPower_none⟩

theorem describes_odd : Event.Describes oddEntry oddMetadata "c" (" " ++ oddText ++ "\n") := by
  have hnone : IsSpacing [] := List.forall_mem_nil _
  have hone : IsSpacing [' '] := isSpacing_one (by decide)
  have hplain : ∀ s ∈ ["db_reader_data", "channel_id", "type", "c", Event.domainTag],
      ∀ p ∈ s.toList.map Json.Piece.plain, p.Proper := by decide
  have htext : ∀ s ∈ ["db_reader_data", "channel_id", "type", "c", Event.domainTag],
      Json.text? (s.toList.map .plain) = some s := fun s hs => Json.text?_plain (hplain s hs)
  have hstring : ∀ s ∈ ["c", Event.domainTag],
      denoted? (Json.stringText (s.toList.map .plain)) = some (.string s) := by
    intro s hs
    have hs' := List.mem_append_right ["db_reader_data", "channel_id", "type"] hs
    rw [(Json.settles_text (hplain s hs')).2, htext s hs']
    rfl
  have hobject : IsObject 1 oddMetadata (Event.metadataText oddEntry).toList := by
    refine ⟨?_, ?_, [], [], [], hnone, hnone, hnone, by decide +kernel⟩
    all_goals
      intro m hm
      simp only [oddMetadata, List.mem_cons, List.not_mem_nil, or_false] at hm
      rcases hm with rfl | rfl | rfl
    · exact ⟨hnone, hplain _ (by simp), hone, hone, hnone⟩
    · exact ⟨hnone, hplain _ (by simp), hnone, hnone, hnone⟩
    · exact ⟨hnone, hplain _ (by simp), hnone, hnone, hnone⟩
    · exact written_oddSource
    · exact .string (hplain _ (by simp))
    · exact .string (hplain _ (by simp))
  have hnames : oddMetadata.filterMap Member.name? = ["db_reader_data", "channel_id", "type"] := by
    have hfirst := htext "db_reader_data" (by simp)
    have hsecond := htext "channel_id" (by simp)
    have hthird := htext "type" (by simp)
    simp only [oddMetadata, Member.name?, List.filterMap_cons, List.filterMap_nil, hfirst, hsecond,
      hthird]
  refine ⟨⟨1, hobject⟩, by decide +kernel, by rw [hnames]; decide, ?_, ?_, ?_⟩
  · exact ⟨_, List.mem_of_getElem? (i := 2) rfl, htext _ (by simp), hstring _ (by simp)⟩
  · exact ⟨_, List.mem_of_getElem? (i := 1) rfl, htext _ (by simp), hstring _ (by simp)⟩
  · exact ⟨_, List.mem_of_getElem? (i := 0) rfl, htext _ (by simp), [' '], ['\n'], hone,
      isSpacing_one (by decide), rfl⟩

/-- The thing is made of the file that the escape spells, and is read every second and a half. -/
theorem created_by_entry_odd :
    let a : Adapter LogPublisher := { publisher := {} }
    let source := " " ++ oddText ++ "\n"
    let out := (Adapter.serviceFor true).createThing "t" "c" source a
    (Adapter.serviceFor true).process oddEntry a = out ∧ out.2 = none ∧
      out.1.registry.ids = ["t"] ∧ out.1.registry.running = 1 := by
  intro a source out
  have hexact : ∀ x ∈ ((Json.parse source).toOption.map Json.floats).getD [], Json.Exact x := by
    decide +kernel
  refine ⟨created_by_entry true a (.inr (by decide)) describes_odd fun v hv x hx => hexact x ?_, ?_⟩
  · rw [hv]
    exact hx
  · decide +kernel

end TableFeed
