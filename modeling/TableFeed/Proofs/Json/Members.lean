import TableFeed.Proofs.Json.Denoted
import TableFeed.Proofs.Json.Kinds
import TableFeed.Proofs.Json.Records
import TableFeed.Proofs.Json.Skipped

/-!
# Records are read from any object

A record stands in an object among members that nobody asks for. Those are passed over; the others
are read by their kinds. So whether a record is read depends on the members alone: on what their names
denote, and on what the values of the known ones denote.

* **`readKind_settles`** — a value is read by a kind exactly if it denotes a value that the kind
  takes.
* **`readFields_members`** — the crux: the members of an object, one by one.
* **`parse_members`** — the record that the text of an object is, if it is one.
-/

namespace TableFeed.Json

open Read

/-- A text that is an object of members, with white space around it; the values of the members nest
no deeper than a bound. -/
structure IsObject (d : Nat) (ms : List Member) (cs : List Char) : Prop where
  members : ∀ m ∈ ms, m.Proper
  values : ∀ m ∈ ms, Written d m.item.value
  text : ∃ before space after, IsSpacing before ∧ IsSpacing space ∧ IsSpacing after ∧
    cs = before ++ '\x7b' :: (space ++ (membersText true ms ++ after))

namespace Schema

variable {kind : Kind} {rest : List UInt8}

/-! ## Values of a kind -/

/-- A kind other than that of any value takes neither words nor arrays nor objects. -/
theorem check_none (hkind : kind ≠ .any) {v : Json}
    (hv : ∀ s, v ≠ .string s) (hnumber : ¬ v.IsNumber) : (kind.check v).toOption = none := by
  cases v with
  | string s => exact absurd rfl (hv s)
  | int i => exact absurd (.int i) hnumber
  | float x => exact absurd (.float x) hnumber
  | _ => cases kind <;> first | exact absurd rfl hkind | rfl

/-- Values that begin neither with a quote nor like a number are of the wrong kind. -/
theorem readKind_wrong (hkind : kind ≠ .any) {b : UInt8} {bs : List UInt8}
    (hskip : skipSpace (b :: bs) = b :: bs) (htext : kind = .text → b ≠ ascii '"')
    (hnumber : kind ≠ .text → ¬ (b = ascii '-' ∨ isDigit b = true)) :
    (readKind kind (b :: bs)).toOption = none := by
  have hwrong : ∀ expected, (wrongKind expected (b :: bs) : Reading Json).toOption = none := by
    intro expected
    cases h : (wrongKind expected (b :: bs) : Reading Json) with
    | error e => rfl
    | ok a => exact absurd h (wrongKind_ne expected _ a)
  rw [readKind, if_neg hkind, hskip]
  dsimp only
  by_cases h : kind = .text
  · rw [if_pos h, if_neg (htext h)]
    exact hwrong _
  · rw [if_neg h, if_neg (hnumber h)]
    exact hwrong _

theorem readKind_spacing (kind : Kind) {space : List Char} (h : IsSpacing space)
    (bs : List UInt8) : readKind kind (Utf8.encode space ++ bs) = readKind kind bs := by
  rw [readKind, readKind, skipSpace_spacing h, value_spacing _ h]

/-- What neither is a string nor a number is only taken as any value. -/
theorem readKind_other (hkind : kind ≠ .any) (c : Char) (cs : List Char) (hc : Leads c)
    (hfirst : ascii c ≠ ascii '"' ∧ ascii c ≠ ascii '-' ∧ isDigit (ascii c) = false)
    (hv : ∀ v ∈ denoted? (c :: cs), (∀ s, v ≠ .string s) ∧ ¬ v.IsNumber) :
    Settles (readKind kind) (Utf8.encode (c :: cs))
      ((denoted? (c :: cs)).bind fun v => (kind.check v).toOption) := by
  have hnone : ((denoted? (c :: cs)).bind fun v => (kind.check v).toOption) = none := by
    cases hdenoted : denoted? (c :: cs) with
    | none => rfl
    | some v => exact check_none hkind (hv v hdenoted).1 (hv v hdenoted).2
  intro rest _
  obtain ⟨hquote, hminus, hdigit⟩ := hfirst
  rw [hnone, encode_mark hc.small, List.cons_append]
  exact readKind_wrong hkind (skipSpace_leads hc _) (fun _ => hquote) fun _ h => by
    rcases h with h | h
    · exact hminus h
    · rw [hdigit] at h
      cases h

theorem denoted?_word {cs : List Char} {w : Json}
    (h : Settles (value maxDepth) (Utf8.encode cs) (some w)) (hw : w = .null ∨ ∃ b, w = .bool b) :
    ∀ v ∈ denoted? cs, (∀ s, v ≠ .string s) ∧ ¬ v.IsNumber := by
  intro v hv
  obtain rfl := Option.some.inj ((denoted?_eq h).symm.trans hv)
  rcases hw with rfl | ⟨b, rfl⟩ <;> exact ⟨by simp, by rintro ⟨⟩⟩

theorem number_leads {t : NumberText} (h : t.Proper) :
    ∃ c cs, t.text = c :: cs ∧ Leads c ∧ ascii c ≠ ascii '"' ∧
      (ascii c = ascii '-' ∨ isDigit (ascii c) = true) := by
  obtain ⟨d, ds, hwhole, -⟩ := h.whole
  have hd := h.wholeDigits d (hwhole ▸ List.mem_cons_self)
  have hrange := toNat_digit hd
  unfold NumberText.text NumberText.unsigned
  rw [hwhole]
  cases t.negative with
  | true => exact ⟨'-', _, rfl, leads_mark _ (by simp), by decide, .inl rfl⟩
  | false =>
    refine ⟨d, _, rfl, leads_digit hd, fun heq => ?_, .inr (isDigit_ascii hd)⟩
    obtain rfl := (ascii_inj (by omega) (by decide)).mp heq
    cases hd

/-- A number is taken by the kinds of numbers that it fits. -/
theorem readKind_number (hkind : kind ≠ .any) {t : NumberText} (h : t.Proper) :
    Settles (readKind kind) (Utf8.encode t.text)
      ((denoted? t.text).bind fun v => (kind.check v).toOption) := by
  obtain ⟨outcome, hnumber, hsettles⟩ := numberText_settles h
  rw [denoted?_eq (hsettles maxDepth)]
  obtain ⟨c, cs, htext, hc, hquote, hfirst⟩ := number_leads h
  intro rest hrest
  -- a number needs no depth, and the reader by kinds gives it none
  have hread := hsettles 0 rest hrest
  rw [htext, encode_mark hc.small, List.cons_append] at hread ⊢
  by_cases htextual : kind = .text
  · have hnone : (outcome.bind fun v => (kind.check v).toOption) = none := by
      subst htextual
      cases outcome with
      | none => rfl
      | some v =>
        cases hnumber v rfl with
        | int i => rfl
        | float x => rfl
    rw [hnone]
    exact readKind_wrong hkind (skipSpace_leads hc _) (fun _ => hquote) fun h => absurd htextual h
  · rw [readKind, if_neg hkind, skipSpace_leads hc]
    dsimp only
    rw [if_neg htextual, if_pos hfirst]
    cases outcome with
    | none =>
      cases hvalue : value 0 (ascii c :: (Utf8.encode cs ++ rest)) with
      | error e => rfl
      | ok found =>
        rw [hvalue] at hread
        cases hread
    | some v =>
      rw [toOption_eq_some.mp hread]
      dsimp only
      cases hcheck : kind.check v with
      | error cause =>
        show none = Option.map (·, rest) (kind.check v).toOption
        rw [hcheck]
        rfl
      | ok w =>
        show some (w, rest) = Option.map (·, rest) (kind.check v).toOption
        rw [hcheck]
        rfl

/-- A string is taken as a text. -/
theorem readKind_string (hkind : kind ≠ .any) {pieces : List Piece} (h : ∀ p ∈ pieces, p.Proper) :
    Settles (readKind kind) (Utf8.encode (stringText pieces))
      ((denoted? (stringText pieces)).bind fun v => (kind.check v).toOption) := by
  obtain ⟨htext, hdenoted⟩ := settles_text h
  have hquote : ∀ bs, skipSpace (ascii '"' :: bs) = ascii '"' :: bs := fun _ => rfl
  intro rest _
  rw [hdenoted, stringText, encode_mark (by decide), List.cons_append]
  by_cases htextual : kind = .text
  · subst htextual
    rw [readKind, if_neg hkind, hquote]
    dsimp only
    rw [if_pos rfl, if_pos rfl, toOption_map, htext]
    cases text? pieces <;> rfl
  · have hnone :
        (((text? pieces).map Json.string).bind fun v => (kind.check v).toOption) = none := by
      cases text? pieces with
      | none => rfl
      | some s => cases kind <;> first | exact absurd rfl hkind | exact absurd rfl htextual | rfl
    rw [hnone]
    exact readKind_wrong hkind (hquote _) (fun h => absurd h htextual) fun _ => by decide

/-- A value is read by a kind exactly if it denotes a value that the kind takes. -/
theorem readKind_settles (kind : Kind) {d : Nat} {cs : List Char} (h : Written d cs)
    (hd : d ≤ maxDepth - 1) :
    Settles (readKind kind) (Utf8.encode cs)
      ((denoted? cs).bind fun v => (kind.check v).toOption) := by
  have hmax : maxDepth = 127 := rfl
  have hany := settles_denoted h (by omega) hd
  by_cases hkind : kind = .any
  · -- any value is read at the depth below the one of the object, where it still fits
    intro rest hrest
    rw [hkind, readKind, if_pos rfl, hany rest hrest]
    cases denoted? cs <;> rfl
  cases h with
  | null =>
    exact readKind_other hkind 'n' "ull".toList (leads_mark _ (by simp)) (by decide)
      (denoted?_word (null_settles maxDepth) (.inl rfl))
  | true =>
    exact readKind_other hkind 't' "rue".toList (leads_mark _ (by simp)) (by decide)
      (denoted?_word (true_settles maxDepth) (.inr ⟨true, rfl⟩))
  | false =>
    exact readKind_other hkind 'f' "alse".toList (leads_mark _ (by simp)) (by decide)
      (denoted?_word (false_settles maxDepth) (.inr ⟨false, rfl⟩))
  | number h => exact readKind_number hkind h
  | string h => exact readKind_string hkind h
  | array hspace hitems h =>
    refine readKind_other hkind _ _ (leads_mark _ (by simp)) (by decide) fun v hv => ?_
    rw [denoted?_items hspace (fun i hi => ⟨hitems i hi, h i hi⟩) (by omega)] at hv
    obtain ⟨vs, -, rfl⟩ := Option.map_eq_some_iff.mp hv
    exact ⟨by simp, by rintro ⟨⟩⟩
  | object hspace hmembers h =>
    refine readKind_other hkind _ _ (leads_mark _ (by simp)) (by decide) fun v hv => ?_
    rw [denoted?_members hspace (fun m hm => ⟨hmembers m hm, h m hm⟩) (by omega)] at hv
    obtain ⟨fs, -, rfl⟩ := Option.map_eq_some_iff.mp hv
    exact ⟨by simp, by rintro ⟨⟩⟩

/-! ## Members -/

/-- What a member gives a record: nothing if nobody asks for it, or the value of a field. It fails if
the name of the member denotes no text, or if the field does not take the value. -/
def fieldOutcome (s : Schema) (m : Member) : Option (Option (String × Json)) :=
  m.name?.bind fun name =>
    match s.field? name with
    | none => some none
    | some f => (m.value?.bind fun v => (f.kind.check v).toOption).map fun v => some (name, v)

variable {s : Schema} {d : Nat} {ms : List Member}

/-- The field that a member gives has the name of the member, and its value as the field takes it. -/
theorem fieldOutcome_some {m : Member} {name : String} {w : Json}
    (h : s.fieldOutcome m = some (some (name, w))) :
    m.name? = some name ∧ ∃ f v, s.field? name = some f ∧ m.value? = some v ∧
      f.kind.check v = .ok w := by
  unfold fieldOutcome at h
  obtain ⟨n, hname, h⟩ := Option.bind_eq_some_iff.mp h
  split at h
  · cases h
  · rename_i f hfield
    obtain ⟨u, hvalue, heq⟩ := Option.map_eq_some_iff.mp h
    obtain ⟨rfl, rfl⟩ := Prod.mk.inj (Option.some.inj heq)
    obtain ⟨v, hv, hcheck⟩ := Option.bind_eq_some_iff.mp hvalue
    exact ⟨hname, f, v, hfield, hv, toOption_eq_some.mp hcheck⟩

theorem readFields_spacing (rounds : Nat) (first : Bool) (found : List (String × Json))
    {space : List Char} (h : IsSpacing space) (bs : List UInt8) :
    s.readFields (rounds + 1) first found (Utf8.encode space ++ bs) =
      s.readFields (rounds + 1) first found bs := by
  rw [readFields, readFields, nextName_spacing first h, skipSpace_spacing h]

/-- The name of a member decides what is done with its value. -/
theorem readFields_name (rounds : Nat) (first : Bool) (found : List (String × Json)) {m : Member}
    (hm : IsSpacing m.before) :
    s.readFields (rounds + 1) first found (Utf8.encode (membersText first (m :: ms)) ++ rest) =
      (do
        let (name, rest) ← Read.string (Utf8.encode (m.openTextWith (membersText false ms)) ++ rest)
        match s.field? name with
        | none =>
          let rest ← skipValue (← colon rest)
          s.readFields rounds false found rest
        | some f =>
          if (Json.field? name found).isSome then
            failRecord (.duplicateField name) (ascii '\x7d') rest
          else
            let (v, rest) ← readKind f.kind (← colon rest)
            s.readFields rounds false (found ++ [(name, v)]) rest) := by
  rw [readFields, nextName_member first hm]
  rfl

/-- A member is read or passed over, then those behind it. -/
theorem readFields_cons {m : Member} (hm : m.Proper) (hvalue : Written d m.item.value)
    (hd : d ≤ maxDepth - 1) (rounds : Nat) (first : Bool) {found : List (String × Json)}
    (hnew : ∀ name ∈ m.name?, name ∉ found.map (·.1)) :
    (s.readFields (rounds + 1 + 1) first found
      (Utf8.encode (membersText first (m :: ms)) ++ rest)).toOption =
      (s.fieldOutcome m).bind fun field =>
        (s.readFields (rounds + 1) false (found ++ field.toList)
          (Utf8.encode (membersText false ms) ++ rest)).toOption := by
  rw [readFields_name _ _ _ hm.before, toOption_bind, encode_member, (settles_text hm.name).1,
    fieldOutcome, Member.name?]
  rw [Member.name?] at hnew
  cases htext : text? m.name with
  | none => rfl
  | some name =>
    dsimp only [Option.map_some, Option.bind_some]
    cases hfield : s.field? name with
    | none =>
      -- nobody asks for it: the value is passed over, whatever it denotes
      dsimp only
      rw [colon_spacing hm.between]
      show Except.toOption (skipValue _ >>= fun rest => _) = _
      rw [skipValue_item hm.item hvalue (ends_members hm.item ms rest)]
      show Except.toOption (s.readFields (rounds + 1) false found _) = _
      rw [readFields_spacing _ _ _ hm.item.after]
      exact congrArg (fun l => Except.toOption (s.readFields _ _ l _)) (List.append_nil found).symm
    | some f =>
      have hfresh := field?_new (hnew name htext)
      dsimp only
      rw [hfresh, if_neg (by simp), colon_spacing hm.between]
      show Except.toOption (readKind f.kind _ >>= fun v => _) = _
      rw [encode_item, readKind_spacing _ hm.item.before, toOption_bind,
        readKind_settles f.kind hvalue hd _ (ends_members hm.item ms rest), ← Member.value?]
      cases m.value?.bind fun v => (f.kind.check v).toOption with
      | none => rfl
      | some v =>
        show Except.toOption (s.readFields (rounds + 1) false (found ++ [(name, v)]) _) = _
        rw [readFields_spacing _ _ _ hm.item.after]
        rfl

/-- The members of an object are read or passed over one by one. -/
theorem readFields_members (hms : ∀ m ∈ ms, m.Proper ∧ Written d m.item.value)
    (hd : d ≤ maxDepth - 1) {rounds : Nat} (hrounds : ms.length < rounds) (first : Bool)
    (found : List (String × Json)) (hnames : (found.map (·.1) ++ ms.filterMap Member.name?).Nodup) :
    (s.readFields rounds first found (Utf8.encode (membersText first ms) ++ rest)).toOption =
      (ms.mapM s.fieldOutcome).map fun l => (found ++ l.filterMap id, ascii '\x7d' :: rest) := by
  induction ms generalizing first found rounds with
  | nil =>
    obtain ⟨rounds, rfl⟩ : ∃ n, rounds = n + 1 := ⟨rounds - 1, by omega⟩
    have hskip : skipSpace (Utf8.encode (membersText first []) ++ rest) = ascii '\x7d' :: rest := rfl
    rw [readFields, nextName_end]
    simp only [bind, Except.bind]
    rw [hskip]
    exact congrArg (fun l => some (l, ascii '\x7d' :: rest)) (List.append_nil found).symm
  | cons m ms ih =>
    obtain ⟨rounds, rfl⟩ : ∃ n, rounds = n + 1 + 1 := ⟨rounds - 2, by
      rw [List.length_cons] at hrounds
      omega⟩
    obtain ⟨hm, hvalue⟩ := hms m List.mem_cons_self
    have hnew : ∀ name ∈ m.name?, name ∉ found.map (·.1) := by
      intro name hname hmem
      rw [List.filterMap_cons_some hname] at hnames
      exact (List.nodup_append.mp hnames).2.2 name hmem name List.mem_cons_self rfl
    rw [readFields_cons hm hvalue hd rounds first hnew, List.mapM_cons]
    cases hfield : s.fieldOutcome m with
    | none => rfl
    | some field =>
      -- the names stay different, also where the member gave nothing and its name is left out
      have hnext : ((found ++ field.toList).map (·.1) ++ ms.filterMap Member.name?).Nodup := by
        cases field with
        | none =>
          rw [Option.toList_none, List.append_nil]
          refine hnames.sublist (List.Sublist.append_left ?_ _)
          exact (List.sublist_cons_self m ms).filterMap _
        | some e =>
          obtain ⟨name, w⟩ := e
          obtain ⟨hname, -⟩ := fieldOutcome_some hfield
          rw [List.filterMap_cons_some hname] at hnames
          rw [Option.toList_some, List.map_append, List.append_assoc]
          exact hnames
      dsimp only [Option.bind_some]
      rw [ih (fun k hk => hms k (List.mem_cons_of_mem m hk)) (by
        rw [List.length_cons] at hrounds
        omega) false _ hnext]
      show _ = Option.map _ ((ms.mapM s.fieldOutcome).bind fun l => some (field :: l))
      cases ms.mapM s.fieldOutcome with
      | none => rfl
      | some l =>
        cases field with
        | none =>
          exact congrArg (fun found => some (found ++ l.filterMap id, _)) (List.append_nil found)
        | some e => exact congrArg (fun l => some (l, _)) (List.append_assoc found [e] _)

theorem read_members {after : List Char} {space : List Char} (hspace : IsSpacing space)
    (hms : ∀ m ∈ ms, m.Proper ∧ Written d m.item.value) (hd : d ≤ maxDepth - 1)
    (hnames : (ms.filterMap Member.name?).Nodup) :
    (s.read (ascii '\x7b' :: (Utf8.encode space ++
      (Utf8.encode (membersText true ms) ++ Utf8.encode after)))).toOption =
      ((ms.mapM s.fieldOutcome).bind fun l => (assemble (l.filterMap id) s.fields).toOption).map
        (·, Utf8.encode after) := by
  have hstart : ∀ bs, skipSpace (ascii '\x7b' :: bs) = ascii '\x7b' :: bs := fun _ => rfl
  have hlength := length_members true ms
  rw [read, hstart]
  dsimp only
  rw [if_neg (by decide), if_pos rfl, toOption_bind, readFields_spacing _ _ _ hspace,
    readFields_members hms hd (by
      rw [List.length_append, List.length_append]
      omega) true [] hnames]
  cases ms.mapM s.fieldOutcome with
  | none => rfl
  | some l =>
    dsimp only [Option.map_some, Option.bind_some]
    rw [List.nil_append]
    cases assemble (l.filterMap id) s.fields <;> rfl

/-- The record that the text of an object is, if each of its members gives what the record asks
for. -/
theorem parse_members {cs : List Char} (h : IsObject d ms cs) (hd : d ≤ maxDepth - 1)
    (hnames : (ms.filterMap Member.name?).Nodup) :
    (s.parse (String.ofList cs)).toOption =
      (ms.mapM s.fieldOutcome).bind fun l => (assemble (l.filterMap id) s.fields).toOption := by
  obtain ⟨before, space, after, hbefore, hspace, hafter, rfl⟩ := h.text
  have hbytes : Utf8.bytes
      (String.ofList (before ++ '\x7b' :: (space ++ (membersText true ms ++ after)))) =
      Utf8.encode before ++ ascii '\x7b' :: (Utf8.encode space ++
        (Utf8.encode (membersText true ms) ++ Utf8.encode after)) := by
    rw [Utf8.bytes, String.toList_ofList, Utf8.encode_append, encode_mark (by decide),
      Utf8.encode_append, Utf8.encode_append]
  have hread : ∀ bs, s.read (Utf8.encode before ++ bs) = s.read bs := fun bs => by
    rw [read, read, skipSpace_spacing hbefore]
  rw [parse, hbytes]
  dsimp only
  rw [toOption_mapError, toOption_bind, hread,
    read_members hspace (fun m hm => ⟨h.members m hm, h.values m hm⟩) hd hnames]
  generalize ((ms.mapM s.fieldOutcome).bind fun l =>
    (assemble (l.filterMap id) s.fields).toOption) = record
  cases record with
  | none => rfl
  | some vs => exact congrArg Except.toOption (finish_spacing vs hafter)

end Schema

end TableFeed.Json
