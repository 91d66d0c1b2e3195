import TableFeed.Proofs.Events.Handling
import TableFeed.Proofs.Json.Denoted
import TableFeed.Proofs.Json.Members

/-!
# Metadata for another adapter

Metadata that is not tagged for this adapter is no failure: its entry is skipped. But the tag is
looked at only once the metadata was read, and so metadata of another adapter still has to have what
this one asks for in the shape that it asks for it (`Event.Readable`).

* **`isSome_fieldOutcome`** — what a member has to be like, name by name; **`readable_iff`** puts that
  together for an object.
* **`provision_foreign`**, **`provision_unreadable`** — the crux: foreign metadata is told apart if it
  is readable, and taken for malformed if not.
* **`foreign_skipped`** — so an entry with such metadata is skipped in the one case and fails in the
  other.
* **`foreign_stalled`** — the other case does occur: a number under a name that this adapter has a
  text under ends the batch.
-/

namespace TableFeed

open Json (Member IsObject isSome_mapM mem_of_mapM)

namespace Event

/-- Metadata that is tagged for another adapter, or that is not tagged. -/
def IsForeign (ms : List Member) : Prop :=
  ∀ m ∈ ms, m.name? = some "type" → ∃ tag, tag ≠ domainTag ∧ m.value? = some (.string tag)

/-- Metadata that can be read whoever it is for: its names are texts, and what it has under the names
of this adapter's fields is what these fields take. -/
structure Readable (ms : List Member) : Prop where
  names : ∀ m ∈ ms, m.name?.isSome = true
  channel : ∀ m ∈ ms, m.name? = some "channel_id" → ∃ channel, m.value? = some (.string channel)
  source : ∀ m ∈ ms, m.name? = some "db_reader_data" → m.value?.isSome = true

/-! ## What a member gives -/

theorem field?_cases (name : String) :
    (name = "type" ∧ schema.field? name = some ⟨"type", .text, some (.string "")⟩) ∨
      (name = "db_reader_data" ∧ schema.field? name = some ⟨"db_reader_data", .any, some .null⟩) ∨
      (name = "channel_id" ∧ schema.field? name = some ⟨"channel_id", .text, some (.string "")⟩) ∨
      (name ≠ "type" ∧ name ≠ "db_reader_data" ∧ name ≠ "channel_id" ∧
        schema.field? name = none) := by
  by_cases htype : name = "type"
  · subst htype
    exact .inl ⟨rfl, rfl⟩
  by_cases hsource : name = "db_reader_data"
  · subst hsource
    exact .inr (.inl ⟨rfl, rfl⟩)
  by_cases hchannel : name = "channel_id"
  · subst hchannel
    exact .inr (.inr (.inl ⟨rfl, rfl⟩))
  refine .inr (.inr (.inr ⟨htype, hsource, hchannel, ?_⟩))
  unfold Json.Schema.field? schema
  simp [Ne.symm htype, Ne.symm hsource, Ne.symm hchannel]

theorem text_taken (v : Option Json) :
    (v.bind fun v => (Json.Kind.text.check v).toOption).isSome = true ↔
      ∃ s, v = some (.string s) := by
  cases v with
  | none => exact iff_of_false (fun h => nomatch h) fun ⟨s, hs⟩ => nomatch hs
  | some v =>
    cases v with
    | string s => exact iff_of_true rfl ⟨s, rfl⟩
    | _ => exact iff_of_false (fun h => nomatch h) fun ⟨s, hs⟩ => nomatch hs

/-- What a member has to be like to give what is asked for. -/
theorem isSome_fieldOutcome (m : Member) :
    (schema.fieldOutcome m).isSome = true ↔ m.name?.isSome = true ∧
      (m.name? = some "type" → ∃ tag, m.value? = some (.string tag)) ∧
      (m.name? = some "channel_id" → ∃ channel, m.value? = some (.string channel)) ∧
      (m.name? = some "db_reader_data" → m.value?.isSome = true) := by
  have hne : ("type" : String) ≠ "channel_id" ∧ ("type" : String) ≠ "db_reader_data" ∧
      ("channel_id" : String) ≠ "db_reader_data" := by decide
  obtain ⟨htc, hts, hcs⟩ := hne
  unfold Json.Schema.fieldOutcome
  cases m.name? with
  | none => exact iff_of_false (fun h => nomatch h) fun h => nomatch h.1
  | some name =>
    dsimp only [Option.bind_some]
    -- by the field that the name asks for, if it asks for any
    rcases field?_cases name with
      ⟨rfl, hfield⟩ | ⟨rfl, hfield⟩ | ⟨rfl, hfield⟩ | ⟨ht, hs, hc, hfield⟩
    · simp only [hfield, Option.isSome_map, text_taken]
      simp [htc, hts]
    · have hany : ∀ v : Option Json, (v.bind fun v => (Json.Kind.any.check v).toOption) = v := by
        intro v
        cases v <;> rfl
      simp only [hfield, Option.isSome_map, hany]
      simp [Ne.symm hts, Ne.symm hcs]
    · simp only [hfield, Option.isSome_map, text_taken]
      simp [Ne.symm htc, hcs]
    · simp only [hfield]
      simp [ht, hs, hc]

/-- Foreign metadata is readable exactly if every member of it gives what is asked for. -/
theorem readable_iff {ms : List Member} (h : IsForeign ms) :
    Readable ms ↔ (ms.mapM schema.fieldOutcome).isSome = true := by
  rw [isSome_mapM]
  constructor
  · intro hreadable m hm
    refine (isSome_fieldOutcome m).mpr ⟨hreadable.names m hm, fun hname => ?_,
      hreadable.channel m hm, hreadable.source m hm⟩
    obtain ⟨tag, -, htag⟩ := h m hm hname
    exact ⟨tag, htag⟩
  · intro hall
    have hmember := fun m hm => (isSome_fieldOutcome m).mp (hall m hm)
    exact ⟨fun m hm => (hmember m hm).1, fun m hm => (hmember m hm).2.2.1,
      fun m hm => (hmember m hm).2.2.2⟩

/-- The record of metadata: each of its fields has a default. -/
theorem assemble_schema (found : List (String × Json)) :
    Json.Schema.assemble found schema.fields =
      .ok [(Json.field? "type" found).getD (.string ""),
        (Json.field? "db_reader_data" found).getD .null,
        (Json.field? "channel_id" found).getD (.string "")] := by
  unfold schema Json.Schema.assemble Json.Schema.assemble Json.Schema.assemble Json.Schema.assemble
  cases Json.field? "type" found <;> cases Json.field? "db_reader_data" found <;>
    cases Json.field? "channel_id" found <;> rfl

/-- What foreign metadata is read as does not have the tag of this adapter. -/
theorem tag_foreign {ms : List Member} (h : IsForeign ms) {l : List (Option (String × Json))}
    (hl : ms.mapM schema.fieldOutcome = some l) :
    ((Json.field? "type" (l.filterMap id)).getD (.string "")).asText ≠ domainTag := by
  cases hfound : Json.field? "type" (l.filterMap id) with
  | none => decide
  | some w =>
    -- the tag was found, so there is a member that it was read from
    obtain ⟨⟨name, v⟩, hmem, heq⟩ := List.exists_of_findSome?_eq_some hfound
    obtain ⟨rfl, rfl⟩ : name = "type" ∧ v = w := by simpa using heq
    obtain ⟨field, hfield, rfl⟩ := List.mem_filterMap.mp hmem
    obtain ⟨m, hm, houtcome⟩ := mem_of_mapM hl hfield
    obtain ⟨hname, f, u, hkind, hvalue, hcheck⟩ := Json.Schema.fieldOutcome_some houtcome
    obtain ⟨tag, htag, hstring⟩ := h m hm hname
    obtain rfl := Option.some.inj (hvalue.symm.trans hstring)
    obtain rfl : (⟨"type", .text, some (.string "")⟩ : Json.Field) = f := Option.some.inj hkind
    obtain rfl := Except.ok.inj hcheck
    exact htag

/-! ## Entries with such metadata -/

/-- The text of an entry's metadata. -/
def metadataText (e : Entry) : String :=
  e.field "metadata" "\x7b\x7d"

/-- Foreign metadata that is readable is told apart. -/
theorem provision_foreign {e : Entry} {ms : List Member}
    (hmetadata : IsObject (Json.Read.maxDepth - 1) ms (metadataText e).toList)
    (hnames : (ms.filterMap Member.name?).Nodup) (hforeign : IsForeign ms)
    (hreadable : Readable ms) : provision e = .error (.foreignMetadata domainTag) := by
  obtain ⟨l, hl⟩ := Option.isSome_iff_exists.mp ((readable_iff hforeign).mp hreadable)
  have hparse := Json.Schema.parse_members (s := schema) hmetadata (Nat.le_refl _) hnames
  rw [String.ofList_toList, hl, Option.bind_some, assemble_schema] at hparse
  unfold provision
  rw [← metadataText, toOption_eq_some.mp hparse]
  exact if_pos (tag_foreign hforeign hl)

/-- Foreign metadata that is not readable is taken for malformed. -/
theorem provision_unreadable {e : Entry} {ms : List Member}
    (hmetadata : IsObject (Json.Read.maxDepth - 1) ms (metadataText e).toList)
    (hnames : (ms.filterMap Member.name?).Nodup) (hforeign : IsForeign ms)
    (hunreadable : ¬ Readable ms) : ∃ message, provision e = .error (.eventDecode message) := by
  have hnone : ms.mapM schema.fieldOutcome = none := by
    rw [readable_iff hforeign, Option.isSome_iff_ne_none, not_not] at hunreadable
    exact hunreadable
  have hparse := Json.Schema.parse_members (s := schema) hmetadata (Nat.le_refl _) hnames
  rw [String.ofList_toList, hnone] at hparse
  unfold provision
  rw [← metadataText]
  cases hresult : schema.parse (metadataText e) with
  | error cause => exact ⟨_, rfl⟩
  | ok values =>
    rw [hresult] at hparse
    cases hparse

/-- An entry whose operation has metadata. -/
def Provisions (e : Entry) : Prop :=
  e.field "operation" "" = "thing.create" ∨ e.field "operation" "" = "thing.update"

/-- Such an entry is refused as its metadata is. -/
theorem decode_refused {e : Entry} (hop : Provisions e) {cause : Error}
    (h : provision e = .error cause) : decode e = .error cause := by
  unfold decode
  dsimp only
  rcases hop with hop | hop
  · rw [hop, if_pos rfl, h]
    rfl
  · rw [hop, if_neg (by decide), if_pos rfl, h]
    rfl

end Event

namespace Service

variable {σ : Type} {service : Service σ} {e : Entry}

/-- The line of an entry that is for another adapter. -/
def skipLine (e : Entry) : LogLine :=
  ⟨.debug, s!"[EventStore] Skipping event {e.id} for another domain"⟩

/-- An entry that is skipped: wherever it comes, it is logged and acknowledged, its failures are
forgotten, and the entries behind it are handled as if it had not been there. -/
structure Skips (service : Service σ) (e : Entry) : Prop where
  once : ∀ (rest : List Entry) (s : σ),
    service.deliverOnce (e :: rest) s =
      ((service.deliverOnce rest (service.note (skipLine e) s)).1,
        (service.deliverOnce rest (service.note (skipLine e) s)).2.settle e.id .handled)
  tracked : ∀ (rest : List Entry) (a : Attempts) (s : σ),
    service.deliverTracked (e :: rest) a s =
      ((service.deliverTracked rest (a.clear e.id) (service.note (skipLine e) s)).1,
        (service.deliverTracked rest (a.clear e.id) (service.note (skipLine e) s)).2.1,
        (service.deliverTracked rest (a.clear e.id) (service.note (skipLine e) s)).2.2.settle
          e.id .handled)

/-- The line of an entry that failed. -/
def failLine (e : Entry) (cause : Error) : LogLine :=
  ⟨.warn, s!"[EventStore] Failed to handle event {e.id}: {cause.message}"⟩

/-- An entry that fails: wherever it comes, its failure is logged and counted, and the batch ends
with it, unless its attempts are used up. -/
structure Fails (service : Service σ) (e : Entry) (cause : Error) : Prop where
  once : ∀ (rest : List Entry) (s : σ),
    service.deliverOnce (e :: rest) s =
      (service.note (failLine e cause) s, { abandoned := true })
  tracked : ∀ (rest : List Entry) (a : Attempts) (s : σ), (a.fail e.id).2 = false →
    service.deliverTracked (e :: rest) a s =
      (service.note (failLine e cause) s, (a.fail e.id).1, { abandoned := true })

theorem skips_of_foreign {tag : String} (h : Event.decode e = .error (.foreignMetadata tag)) :
    service.Skips e := by
  have hattempt : ∀ (attempts : Option Attempts) (s : σ), service.attempt e attempts s =
      (service.note (skipLine e) s, attempts.map (·.clear e.id), .handled) := by
    intro attempts s
    unfold attempt process
    rw [h]
    rfl
  constructor
  · intro rest s
    unfold deliverOnce
    rw [service.deliver_settled rest (hattempt none s) rfl]
    rfl
  · intro rest a s
    -- counters that are handed in are handed out again
    have hcounts := (service.deliverTracked_eq rest (a.clear e.id) (service.note (skipLine e) s)).1
    unfold deliverTracked at hcounts ⊢
    rw [service.deliver_settled rest (hattempt (some a) s) rfl, Option.map_some]
    rcases hrest : service.deliver rest (some (a.clear e.id)) (service.note (skipLine e) s) with
      ⟨s', _ | counts, d⟩
    · rw [hrest] at hcounts
      cases hcounts
    · rfl

theorem fails_of_decode {message : String} (h : Event.decode e = .error (.eventDecode message)) :
    service.Fails e (.eventDecode message) := by
  have hprocess : ∀ s, service.process e s = (s, some (.eventDecode message)) := fun s => by
    unfold process
    rw [h]
  constructor
  · intro rest s
    have hattempt : service.attempt e none s =
        (service.note (failLine e (.eventDecode message)) s, none, .failed) := by
      unfold attempt
      rw [hprocess]
      rfl
    unfold deliverOnce
    rw [service.deliver_failed rest hattempt]
  · intro rest a s hmore
    have hattempt : service.attempt e (some a) s =
        (service.note (failLine e (.eventDecode message)) s, some (a.fail e.id).1, .failed) := by
      unfold attempt
      rw [hprocess]
      dsimp only [Option.map_some]
      rw [← Prod.eta (a.fail e.id), hmore]
      rfl
    unfold deliverTracked
    rw [service.deliver_failed rest hattempt]

/-- **Metadata for another adapter is skipped, if it can be read.** Whatever object an entry has for
metadata, as long as that is not tagged for this adapter: the entry is skipped if the metadata is
readable. If it is not, the entry fails like one whose metadata is malformed. -/
theorem foreign_skipped (service : Service σ) {e : Entry} (hop : Event.Provisions e)
    {ms : List Member}
    (hmetadata : IsObject (Json.Read.maxDepth - 1) ms (Event.metadataText e).toList)
    (hnames : (ms.filterMap Member.name?).Nodup) (hforeign : Event.IsForeign ms) :
    (Event.Readable ms → service.Skips e) ∧
      (¬ Event.Readable ms → ∃ message, service.Fails e (.eventDecode message)) := by
  constructor
  · intro hreadable
    have hprovision := Event.provision_foreign hmetadata hnames hforeign hreadable
    exact skips_of_foreign (Event.decode_refused hop hprovision)
  · intro hunreadable
    obtain ⟨message, hprovision⟩ := Event.provision_unreadable hmetadata hnames hforeign hunreadable
    exact ⟨message, fails_of_decode (Event.decode_refused hop hprovision)⟩

/-! ## Two entries for another adapter -/

/-- A service that counts what it is asked for. -/
def counting : Service Nat where
  createThing _ _ _ n := (n + 1, none)
  updateThing _ _ _ n := (n + 1, none)
  removeThing _ n := (n + 1, none)
  createChannel _ _ n := (n + 1, none)
  removeChannel _ n := (n + 1, none)
  publish _ n := (n + 1, none)
  note _ n := n

/-- The tag of another adapter, and a number under a name. -/
def tagged (name : String) (t : Json.NumberText) : List Member :=
  [{ name := "type".toList.map .plain
     item := { value := Json.stringText ("opcua".toList.map .plain) } },
    { name := name.toList.map .plain, item := { value := t.text } }]

/-- A number beyond every format, under a name that nobody asks for, -/
def beyond : Json.NumberText :=
  ⟨false, ['1'], [], some ('e', none, "400".toList)⟩

/-- and one under a name that this adapter has a text under. -/
def five : Json.NumberText :=
  ⟨false, ['5'], [], none⟩

/-- An entry with metadata. -/
def provisioning (metadata : String) : Entry :=
  ⟨"1-0", [("operation", "thing.create"), ("id", "t"), ("metadata", metadata)]⟩

theorem isObject_tagged {name metadata : String} {t : Json.NumberText} (ht : t.Proper)
    (hname : ∀ p ∈ name.toList.map Json.Piece.plain, p.Proper)
    (htext : metadata.toList = '\x7b' :: Json.membersText true (tagged name t)) :
    IsObject (Json.Read.maxDepth - 1) (tagged name t) metadata.toList where
  members m hm := by
    have hnone : Json.IsSpacing [] := List.forall_mem_nil _
    rcases List.mem_pair.mp hm with rfl | rfl
    · exact ⟨hnone, by decide, hnone, hnone, hnone⟩
    · exact ⟨hnone, hname, hnone, hnone, hnone⟩
  values m hm := by
    rcases List.mem_pair.mp hm with rfl | rfl
    · exact .string (by decide)
    · exact .number ht
  text := by
    refine ⟨[], [], [], List.forall_mem_nil _, List.forall_mem_nil _, List.forall_mem_nil _, ?_⟩
    rw [htext, List.append_nil]
    rfl

theorem names_tagged {name : String} (t : Json.NumberText)
    (hname : ∀ p ∈ name.toList.map Json.Piece.plain, p.Proper) :
    (tagged name t).map Member.name? = [some "type", some name] := by
  have htype : Json.text? ("type".toList.map .plain) = some "type" := Json.text?_plain (by decide)
  unfold tagged Member.name?
  rw [List.map_cons, List.map_cons, List.map_nil, htype, Json.text?_plain hname]

theorem isForeign_tagged {name : String} (t : Json.NumberText)
    (hname : ∀ p ∈ name.toList.map Json.Piece.plain, p.Proper) (hother : name ≠ "type") :
    Event.IsForeign (tagged name t) := by
  have hproper : ∀ p ∈ "opcua".toList.map Json.Piece.plain, p.Proper := by decide
  have htag := (Json.settles_text hproper).2
  rw [Json.text?_plain hproper] at htag
  intro m hm htype
  rcases List.mem_pair.mp hm with rfl | rfl
  · exact ⟨"opcua", by decide, htag⟩
  · exact absurd (Option.some.inj ((Json.text?_plain hname).symm.trans htype)) hother

/-- A number beyond every format is none of this adapter's business. -/
theorem foreign_skipped_beyond :
    Event.IsForeign (tagged "limit" beyond) ∧ Event.Readable (tagged "limit" beyond) ∧
      counting.Skips (provisioning "\x7b\"type\":\"opcua\",\"limit\":1e400\x7d") := by
  have hpower : Json.NumberText.ProperPower 'e' none "400".toList :=
    ⟨.inl rfl, by simp, List.cons_ne_nil _ _, List.all_eq_true.mp rfl⟩
  have hnumber : beyond.Proper :=
    ⟨⟨'1', [], rfl, fun _ => rfl⟩, List.all_eq_true.mp rfl, List.forall_mem_nil _, hpower.isPower⟩
  have hlimit : ∀ p ∈ "limit".toList.map Json.Piece.plain, p.Proper := by decide
  have hforeign := isForeign_tagged beyond hlimit (by decide)
  have hnames := names_tagged beyond hlimit
  have hname : ∀ m ∈ tagged "limit" beyond, m.name? ∈ [some "type", some "limit"] :=
    fun m hm => hnames ▸ List.mem_map_of_mem hm
  have hnone : ∀ name, some name ∉ [some "type", some "limit"] →
      ∀ m ∈ tagged "limit" beyond, m.name? ≠ some name :=
    fun name hout m hm heq => hout (heq ▸ hname m hm)
  have hreadable : Event.Readable (tagged "limit" beyond) := by
    refine ⟨fun m hm => ?_, fun m hm h => absurd h (hnone _ (by decide) m hm),
      fun m hm h => absurd h (hnone _ (by decide) m hm)⟩
    rcases List.mem_pair.mp (hname m hm) with h | h <;> rw [h] <;> rfl
  refine ⟨hforeign, hreadable, ?_⟩
  refine (foreign_skipped counting (.inl (by decide)) ?_ ?_ hforeign).1 hreadable
  · exact isObject_tagged hnumber hlimit (by decide +kernel)
  · decide +kernel

/-- **Metadata for another adapter that is not skipped.** A number stands where this adapter would have
a text, and so the entry fails: it is not acknowledged, and its failure is counted. -/
theorem foreign_stalled :
    Event.IsForeign (tagged "channel_id" five) ∧
      IsObject (Json.Read.maxDepth - 1) (tagged "channel_id" five)
        (Event.metadataText (provisioning "\x7b\"type\":\"opcua\",\"channel_id\":5\x7d")).toList ∧
      ((tagged "channel_id" five).filterMap Member.name?).Nodup ∧
      counting.deliverOnce [provisioning "\x7b\"type\":\"opcua\",\"channel_id\":5\x7d"] 0 =
        (0, { abandoned := true }) ∧
      counting.deliverTracked [provisioning "\x7b\"type\":\"opcua\",\"channel_id\":5\x7d"]
          (.ofLimit 5) 0 =
        (0, { limit := 5, failures := [("1-0", 1)] }, { abandoned := true }) := by
  have hnumber : five.Proper :=
    ⟨⟨'5', [], rfl, fun _ => rfl⟩, List.all_eq_true.mp rfl, List.forall_mem_nil _,
      Json.NumberText.isPower_none⟩
  refine ⟨isForeign_tagged five (by decide) (by decide), ?_, by decide +kernel, by decide +kernel,
    by decide +kernel⟩
  exact isObject_tagged hnumber (by decide) (by decide +kernel)

end Service

end TableFeed
