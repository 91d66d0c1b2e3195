import TableFeed.Proofs.Json.Denoted
import TableFeed.Proofs.Json.Records
import TableFeed.Proofs.Number.Numeral
import TableFeed.Publishing.Message
import TableFeed.Sample

/-!
# What is sent can be read back

A message is written as a JSON object and read back from it as it was. Its payload is JSON too,
unless its text is a date: an array of one object, with the name of the sample and with its value
under a tag.

* **`numericLiteral_text`** — the crux: a text that is a finite number is sent as a number of the
  grammar, be it the text itself or the number that it denotes. It is never sent as a quoted text.
* **`sends`** — what a text is sent as, by what it is taken for.
* **`payload_json`** — the payload as JSON.
* **`sent_read_back`** — the message with its payload.
-/

namespace TableFeed

open Json (Item Member NumberText Piece Written denoted? quote text?)
open Json.Read (Rereading maxDepth)

namespace Message

/-- The fields of a message, each of which is read as it is written. -/
def rereading (m : Message) : Rereading :=
  [("publisher", .string m.publisher, .string m.publisher),
    ("protocol", .string m.protocol, .string m.protocol),
    ("channel", .string m.channel, .string m.channel),
    ("subtopic", .string m.subtopic, .string m.subtopic),
    ("payload", .string m.payload, .string m.payload)]

theorem nodup_rereading (m : Message) : (m.rereading.map (·.1)).Nodup := by
  simp [rereading]

theorem reads_toJson (m : Message) (depth : Nat) :
    Json.Read.ReadAs (depth + 1) m.toJson m.toJson := by
  have hread : ∀ e ∈ m.rereading, Json.Read.ReadAs depth e.2.1 e.2.2 := by
    intro e he
    simp only [rereading, List.mem_cons, List.not_mem_nil, or_false] at he
    rcases he with rfl | rfl | rfl | rfl | rfl <;> exact Json.Read.reads_string depth _
  have hobject := Json.Read.reads_object hread m.nodup_rereading
  have hwritten : m.toJson = .object (Rereading.written m.rereading) := rfl
  have hsame : m.toJson = .object (Rereading.read m.rereading) := rfl
  rwa [← hwritten, ← hsame] at hobject

/-- A message on the wire is the JSON that it was written from. -/
theorem parse_wire (m : Message) : Json.parse m.wire = .ok m.toJson := by
  rw [wire]
  exact Json.Read.parse_render (m.reads_toJson (maxDepth - 1))

/-- A message on the wire is read back as what it is. -/
theorem ofWire_wire (m : Message) : ofWire m.wire = .ok m := by
  have hread : schema.ReadsFields m.rereading := by
    intro e he
    simp only [rereading, List.mem_cons, List.not_mem_nil, or_false] at he
    rcases he with rfl | rfl | rfl | rfl | rfl <;> exact ⟨_, rfl, Json.Schema.readsKind_text _⟩
  have hvalues : schema.parse m.wire = .ok [.string m.publisher, .string m.protocol,
      .string m.channel, .string m.subtopic, .string m.payload] :=
    Json.Schema.parse_object hread m.nodup_rereading rfl
  rw [ofWire, hvalues]
  rfl

end Message

namespace Sample

/-! ## Numbers -/

theorem mark_solid {c : Char} (h : Numeral.IsMark c) :
    c.toNat < 128 ∧ Json.Read.isSpace (Json.Read.ascii c) = false := by
  rcases h with hdigit | hmark
  · have hlead := Json.Read.leads_digit hdigit
    exact ⟨hlead.small, hlead.solid⟩
  · have hall : (['-', '+', '.', 'e', 'E'].all fun d => decide (d.toNat < 128 ∧
        Json.Read.isSpace (Json.Read.ascii d) = false)) = true := by decide
    exact of_decide_eq_true (List.all_eq_true.mp hall c hmark)

/-- A text that is a finite number is sent as a number of the grammar, which denotes a number. It is
the text itself if that is accepted as a number, and else the text of the number that it denotes. -/
theorem numericLiteral_text {s : String} (h : isNumeric s = true) :
    ∃ t : NumberText, t.Proper ∧ (numericLiteral s).toList = t.text ∧
      (∃ v, v.IsNumber ∧ denoted? t.text = some v) ∧
      (Json.Read.isNumber (Utf8.bytes s) = true → numericLiteral s = s) ∧
      (Json.Read.isNumber (Utf8.bytes s) = false → ∃ negative m e,
        Binary64.parse? s = some (.finite negative m e) ∧
          numericLiteral s = Shortest.json negative m e) := by
  obtain ⟨x, hparse, hfinite⟩ : ∃ x, Binary64.parse? s = some x ∧ x.isFinite = true := by
    unfold isNumeric at h
    split at h
    · exact ⟨_, ‹_›, h⟩
    · cases h
  obtain ⟨hcanonical, negative, n, e, hnumeral⟩ := Binary64.parse?_canonical hparse hfinite
  cases hnumber : Json.Read.isNumber (Utf8.bytes s) with
  | true =>
    -- nothing around the number is white space, so the text is the number and nothing else
    have hmarks := fun c hc => mark_solid (Numeral.parse?_chars hnumeral c hc)
    have hsolid : ∀ b ∈ Utf8.bytes s, Json.Read.isSpace b = false := by
      intro b hb
      rw [Utf8.bytes, Json.Read.encode_ascii fun c hc => (hmarks c hc).1] at hb
      obtain ⟨c, hc, rfl⟩ := List.mem_map.mp hb
      exact (hmarks c hc).2
    obtain ⟨t, hproper, hbytes, hdenoted⟩ := Json.isNumber_sound hsolid hnumber
    have hliteral : numericLiteral s = s := if_pos hnumber
    have htext : s = String.ofList t.text := by
      have hdecode := Utf8.decode?_bytes s
      rw [hbytes, ← String.toList_ofList (l := t.text), ← Utf8.bytes, Utf8.decode?_bytes] at hdecode
      exact (Option.some.inj hdecode).symm
    refine ⟨t, hproper, ?_, hdenoted, fun _ => hliteral, by simp⟩
    rw [hliteral, htext, String.toList_ofList]
  | false =>
    -- the text is no number in JSON, but what it denotes is written as one
    obtain ⟨t, hproper, htext, y, hdenoted⟩ := Json.float_text hcanonical
    obtain ⟨negative, m, e, rfl, -⟩ := hcanonical
    have hliteral : numericLiteral s = Shortest.json negative m e := by
      rw [numericLiteral, if_neg (by simp [hnumber]), hparse]
    refine ⟨t, hproper, ?_, ⟨_, .float y, hdenoted⟩, by simp,
      fun _ => ⟨negative, m, e, hparse, hliteral⟩⟩
    rw [hliteral, htext]
    rfl

/-! ## Values -/

/-- What the text of a cell is sent as: a tag, the text of a value and that value. -/
inductive Sends (text : String) : String → String → Json → Prop
  /-- A finite number, as its own text if that is accepted as a number, else as the text of the number
  that it denotes. -/
  | number {t : NumberText} {literal : String} {v : Json} (hkind : classify text = .numeric)
    (hproper : t.Proper) (hliteral : literal.toList = t.text) (hv : v.IsNumber)
    (hself : Json.Read.isNumber (Utf8.bytes text) = true → literal = text)
    (hother : Json.Read.isNumber (Utf8.bytes text) = false → ∃ negative m e,
      Binary64.parse? text = some (.finite negative m e) ∧ literal = Shortest.json negative m e) :
    Sends text "v" literal v
  | boolean {b : Bool} (hkind : classify text = .boolean) (hb : Cell.boolean? text = some b) :
    Sends text "vb" (toString b) (.bool b)
  | text (hkind : classify text = .text) : Sends text "vs" (quote text) (.string text)

/-- The text of a value stands under the tag of its kind, is of the grammar and denotes the value. -/
theorem sends {s : String} (h : classify s ≠ .date) : ∃ v, Sends s (classify s).tag (literal s) v ∧
    Written 0 (literal s).toList ∧ denoted? (literal s).toList = some v := by
  unfold literal
  cases hkind : classify s with
  | numeric =>
    have hnumeric : isNumeric s = true := by
      unfold classify at hkind
      by_contra hnot
      rw [if_neg hnot] at hkind
      split at hkind
      · cases hkind
      · split at hkind <;> cases hkind
    obtain ⟨t, hproper, htext, ⟨v, hv, hdenoted⟩, hself, hother⟩ := numericLiteral_text hnumeric
    refine ⟨v, .number hkind hproper htext hv hself hother, ?_, ?_⟩
    · rw [htext]
      exact .number hproper
    · rw [htext, hdenoted]
  | boolean =>
    obtain ⟨b, hb⟩ : ∃ b, Cell.boolean? s = some b := by
      refine Option.isSome_iff_exists.mp ?_
      show isBoolean s = true
      unfold classify at hkind
      split at hkind
      · cases hkind
      · by_contra hnot
        rw [if_neg hnot] at hkind
        split at hkind <;> cases hkind
    dsimp only
    rw [hb]
    refine ⟨.bool b, .boolean hkind hb, ?_⟩
    cases b with
    | true => exact ⟨.true, Json.denoted?_eq (Json.Read.true_settles maxDepth)⟩
    | false => exact ⟨.false, Json.denoted?_eq (Json.Read.false_settles maxDepth)⟩
  | date => exact absurd hkind h
  | text =>
    obtain ⟨pieces, hproper, hquoted, -⟩ := Json.quoted_text s
    have hlist : (quote s).toList = Json.quoteChars s.toList := String.toList_ofList
    refine ⟨.string s, .text hkind, ?_, ?_⟩
    · rw [hlist, ← hquoted]
      exact .string hproper
    · rw [hlist, Json.denoted?_quote]

/-! ## Payloads -/

/-- The members of a payload: the name, and the value under its tag. -/
def members (name : List Piece) (tag literal : String) : List Member :=
  [{ name := "n".toList.map .plain, item := { value := Json.stringText name } },
    { name := tag.toList.map .plain, item := { value := literal.toList } }]

theorem payload_toList (name : List Piece) {s : String} (tag literal : String)
    (hquoted : Json.stringText name = Json.quoteChars s.toList) :
    ("[\x7b\"n\":" ++ quote s ++ ",\"" ++ tag ++ "\":" ++ literal ++ "\x7d]").toList =
      '[' :: ([] ++ Json.itemsText true
        [{ value := '\x7b' :: ([] ++ Json.membersText true (members name tag literal)) }]) := by
  have hlist : (quote s).toList = Json.stringText name := String.toList_ofList.trans hquoted.symm
  have hopen : ("[\x7b\"n\":" : String).toList = ['[', '\x7b', '"', 'n', '"', ':'] := rfl
  have hnext : (",\"" : String).toList = [',', '"'] := rfl
  have hcolon : ("\":" : String).toList = ['"', ':'] := rfl
  have hclose : ("\x7d]" : String).toList = ['\x7d', ']'] := rfl
  simp only [String.toList_append, hlist, hopen, hnext, hcolon, hclose, members, Json.itemsText,
    Json.membersText, Json.Member.openTextWith, Json.Item.textWith, Json.closedText,
    Json.flatMap_plain]
  simp

/-- A payload is an array of one object with these members, and denotes one with what they denote. -/
theorem payload_json (name : String) {tag literal : String} {v : Json}
    (htag : ∀ p ∈ tag.toList.map Piece.plain, p.Proper) (hother : tag ≠ "n")
    (hwritten : Written 0 literal.toList) (hdenoted : denoted? literal.toList = some v) :
    Written 2 ("[\x7b\"n\":" ++ quote name ++ ",\"" ++ tag ++ "\":" ++ literal ++ "\x7d]").toList ∧
      Json.parse ("[\x7b\"n\":" ++ quote name ++ ",\"" ++ tag ++ "\":" ++ literal ++ "\x7d]") =
        .ok (.array [.object [("n", .string name), (tag, v)]]) := by
  obtain ⟨pieces, hpieces, hquoted, -⟩ := Json.quoted_text name
  have hnone : Json.IsSpacing [] := List.forall_mem_nil _
  have hname : ∀ p ∈ "n".toList.map Piece.plain, p.Proper := by decide
  have hmembers : ∀ m ∈ members pieces tag literal, m.Proper ∧ Written 0 m.item.value := by
    intro m hm
    rcases List.mem_pair.mp hm with rfl | rfl
    · exact ⟨⟨hnone, hname, hnone, hnone, hnone⟩, .string hpieces⟩
    · exact ⟨⟨hnone, htag, hnone, hnone, hnone⟩, hwritten⟩
  have hobject : Written 1 ('\x7b' :: ([] ++ Json.membersText true (members pieces tag literal))) :=
    .object hnone (fun m hm => (hmembers m hm).1) fun m hm => (hmembers m hm).2
  have hitem : ∀ i ∈ [({ value := '\x7b' :: ([] ++
      Json.membersText true (members pieces tag literal)) } : Item)],
      i.Spaced ∧ Written 1 i.value := by
    intro i hi
    obtain rfl := List.mem_singleton.mp hi
    exact ⟨⟨hnone, hnone⟩, hobject⟩
  -- what the two members denote; their names differ, so neither takes the place of the other
  have hfirst : Json.Read.memberOutcome Member.name? Member.value?
      { name := "n".toList.map .plain, item := { value := Json.stringText pieces } } =
        some ("n", .string name) := by
    unfold Json.Read.memberOutcome Member.name? Member.value?
    dsimp only
    rw [Json.text?_plain hname, hquoted, Json.denoted?_quote]
    rfl
  have hsecond : Json.Read.memberOutcome Member.name? Member.value?
      { name := tag.toList.map .plain, item := { value := literal.toList } } = some (tag, v) := by
    unfold Json.Read.memberOutcome Member.name? Member.value?
    dsimp only
    rw [Json.text?_plain htag, hdenoted]
    rfl
  have hvalue : denoted? ('\x7b' :: ([] ++ Json.membersText true (members pieces tag literal))) =
      some (.object [("n", .string name), (tag, v)]) := by
    have hput : Json.put tag v [("n", .string name)] = [("n", .string name), (tag, v)] :=
      Json.Read.put_new v (by simpa using hother)
    rw [Json.denoted?_members hnone hmembers (by decide), Json.Read.objectOutcome, members,
      List.mapM_cons, List.mapM_cons, List.mapM_nil, hfirst, hsecond]
    exact congrArg (fun fields => some (Json.object fields)) hput
  have htext := payload_toList pieces tag literal hquoted
  refine ⟨htext ▸ .array hnone (fun i hi => (hitem i hi).1) fun i hi => (hitem i hi).2, ?_⟩
  rw [← toOption_eq_some, ← String.ofList_toList (s := _ ++ "\x7d]"), htext]
  show denoted? _ = _
  rw [Json.denoted?_items hnone hitem (by decide), List.mapM_cons, List.mapM_nil, hvalue]
  rfl

end Sample

/-- **What is sent can be read back.** Whatever a cell is sent as, under whatever names: the message is
read back from the wire as it was, and unless the text of the cell is a date its payload is JSON, an
array of one object that has the name of the sample and one value. That value is a number, a boolean or
a text, by what the text of the cell is taken for. -/
theorem sent_read_back (thing channel column name text : String)
    (h : Sample.classify text ≠ .date) :
    let m := Message.ofColumn thing channel column (Sample.encode name text)
    Json.parse m.wire = .ok m.toJson ∧ Message.ofWire m.wire = .ok m ∧
      ∃ tag literal v, Sample.Sends text tag literal v ∧
        m.payload =
          "[\x7b\"n\":" ++ quote name ++ ",\"" ++ tag ++ "\":" ++ literal ++ "\x7d]" ∧
        Written 2 m.payload.toList ∧
        Json.parse m.payload = .ok (.array [.object [("n", .string name), (tag, v)]]) := by
  intro m
  obtain ⟨v, hsends, hwritten, hdenoted⟩ := Sample.sends h
  have htag : ∀ kind : Sample.Kind,
      (∀ p ∈ kind.tag.toList.map Piece.plain, p.Proper) ∧ kind.tag ≠ "n" := by
    intro kind
    cases kind <;> decide
  obtain ⟨hproper, hother⟩ := htag (Sample.classify text)
  exact ⟨m.parse_wire, m.ofWire_wire, _, _, v, hsends, rfl,
    Sample.payload_json name hproper hother hwritten hdenoted⟩

/-- A number that is none in JSON is sent as the number that it denotes. -/
theorem sent_read_back_signed :
    Sample.classify "+5" ≠ .date ∧
      Sample.encode "7" "+5" = "[\x7b\"n\":\"7\",\"v\":5.0\x7d]" ∧
      ∃ v, v.IsNumber ∧ Json.parse "[\x7b\"n\":\"7\",\"v\":5.0\x7d]" =
        .ok (.array [.object [("n", .string "7"), ("v", v)]]) := by
  have hkind : Sample.classify "+5" = .numeric := by decide +kernel
  have hdate : Sample.classify "+5" ≠ .date := by
    rw [hkind]
    decide
  have hencode : Sample.encode "7" "+5" = "[\x7b\"n\":\"7\",\"v\":5.0\x7d]" := by decide +kernel
  obtain ⟨-, -, tag, literal, v, hsends, -, -, hparse⟩ := sent_read_back "t" "c" "a" "7" "+5" hdate
  rw [Message.ofColumn, hencode] at hparse
  cases hsends with
  | number _ _ _ hv => exact ⟨hdate, hencode, v, hv, hparse⟩
  | boolean hother =>
    rw [hkind] at hother
    cases hother
  | text hother =>
    rw [hkind] at hother
    cases hother

end TableFeed
