import TableFeed.Proofs.Json.Pieces
import TableFeed.Proofs.Json.Values
import TableFeed.Proofs.Number.Numeral

/-!
# Values of the grammar

A value of the grammar may hold a number too great to be read, or a string that denotes no text.
Whether it is read, and as what, depends on its text alone, at every depth that it fits into.

* **`items_settle`**, **`fields_settle`** — arrays and objects are read item by item.
* **`value_settles`** — the crux: each value of the grammar has one outcome.
* **`settles_denoted`** — which is what its text alone denotes (`denoted?`).
-/

namespace TableFeed.Json

namespace Read

variable {rest : List UInt8}

/-! ## White space and first characters -/

theorem isSpace_ascii {c : Char} (h : c ∈ [' ', '\t', '\n', '\r']) :
    c.toNat < 128 ∧ isSpace (ascii c) = true := by
  have hall : ([' ', '\t', '\n', '\r'].all fun d =>
      decide (d.toNat < 128 ∧ isSpace (ascii d) = true)) = true := by decide
  exact of_decide_eq_true (List.all_eq_true.mp hall c h)

theorem skipSpace_spacing {space : List Char} (h : IsSpacing space) (bs : List UInt8) :
    skipSpace (Utf8.encode space ++ bs) = skipSpace bs := by
  induction space with
  | nil => rfl
  | cons c space ih =>
    obtain ⟨hascii, hspace⟩ := isSpace_ascii (h c List.mem_cons_self)
    rw [encode_mark hascii, List.cons_append]
    unfold skipSpace at ih ⊢
    rw [List.dropWhile_cons_of_pos hspace]
    exact ih fun d hd => h d (List.mem_cons_of_mem c hd)

/-- A character that a value may begin with. -/
structure Leads (c : Char) : Prop where
  small : c.toNat < 128
  solid : isSpace (ascii c) = false
  bracket : ascii c ≠ ascii ']'
  brace : ascii c ≠ ascii '\x7d'
  comma : ascii c ≠ ascii ','

theorem leads_mark : ∀ c ∈ ['n', 't', 'f', '-', '"', '[', '\x7b'], Leads c := by
  have hall : (['n', 't', 'f', '-', '"', '[', '\x7b'].all fun c => decide (c.toNat < 128 ∧
      isSpace (ascii c) = false ∧ ascii c ≠ ascii ']' ∧ ascii c ≠ ascii '\x7d' ∧
      ascii c ≠ ascii ',')) = true := by decide
  intro c hc
  obtain ⟨h₁, h₂, h₃, h₄, h₅⟩ := of_decide_eq_true (List.all_eq_true.mp hall c hc)
  exact ⟨h₁, h₂, h₃, h₄, h₅⟩

theorem leads_digit {d : Char} (hd : d.isDigit = true) : Leads d := by
  have hrange := toNat_digit hd
  have hne : ∀ {c : Char}, c.toNat < 128 → c.isDigit = false → ascii d ≠ ascii c := by
    intro c hc hno heq
    rw [(ascii_inj (by omega) hc).mp heq, hno] at hd
    cases hd
  refine ⟨by omega, ?_, hne (by decide) (by decide), hne (by decide) (by decide),
    hne (by decide) (by decide)⟩
  have hspace : ascii d ≠ 0x20 ∧ ascii d ≠ 0x09 ∧ ascii d ≠ 0x0A ∧ ascii d ≠ 0x0D :=
    ⟨hne (c := ' ') (by decide) (by decide), hne (c := '\t') (by decide) (by decide),
      hne (c := '\n') (by decide) (by decide), hne (c := '\r') (by decide) (by decide)⟩
  simp [isSpace, hspace]

theorem written_leads {d : Nat} {cs : List Char} (h : Written d cs) :
    ∃ c tail, cs = c :: tail ∧ Leads c := by
  cases h with
  | null => exact ⟨'n', _, rfl, leads_mark _ (by simp)⟩
  | true => exact ⟨'t', _, rfl, leads_mark _ (by simp)⟩
  | false => exact ⟨'f', _, rfl, leads_mark _ (by simp)⟩
  | @number _ t h =>
    obtain ⟨d, ds, hwhole, -⟩ := h.whole
    unfold NumberText.text NumberText.unsigned
    rw [hwhole]
    cases t.negative with
    | true => exact ⟨'-', _, rfl, leads_mark _ (by simp)⟩
    | false => exact ⟨d, _, rfl, leads_digit (h.wholeDigits d (hwhole ▸ List.mem_cons_self))⟩
  | string h => exact ⟨'"', _, rfl, leads_mark _ (by simp)⟩
  | array hspace hitems h => exact ⟨'[', _, rfl, leads_mark _ (by simp)⟩
  | object hspace hmembers h => exact ⟨'\x7b', _, rfl, leads_mark _ (by simp)⟩

theorem skipSpace_leads {c : Char} (h : Leads c) (bs : List UInt8) :
    skipSpace (ascii c :: bs) = ascii c :: bs := by
  unfold skipSpace
  rw [List.dropWhile_cons_of_neg (by simp [h.solid])]

theorem value_spacing (depth : Nat) {space : List Char} (h : IsSpacing space) (bs : List UInt8) :
    value depth (Utf8.encode space ++ bs) = value depth bs := by
  rw [value.eq_def, value.eq_def]
  dsimp only
  rw [skipSpace_spacing h]

/-- White space may follow. -/
theorem finish_spacing {α : Type} (a : α) {space : List Char} (h : IsSpacing space) :
    finish a (Utf8.encode space) = .ok a := by
  have hskip := skipSpace_spacing h []
  rw [List.append_nil] at hskip
  rw [finish, hskip]
  rfl

/-- What comes behind a value and white space is no part of a number. -/
theorem ends_spacing {space : List Char} (h : IsSpacing space) {bs : List UInt8} (hbs : Ends bs) :
    Ends (Utf8.encode space ++ bs) := by
  cases space with
  | nil => exact hbs
  | cons c space =>
    have hall : ([' ', '\t', '\n', '\r'].all fun d => decide (isDigit (ascii d) = false ∧
        ascii d ≠ ascii '.' ∧ ascii d ≠ ascii 'e' ∧ ascii d ≠ ascii 'E')) = true := by decide
    have hc := h c List.mem_cons_self
    intro b hb
    rw [encode_mark (isSpace_ascii hc).1] at hb
    rw [← Option.some.inj hb]
    exact of_decide_eq_true (List.all_eq_true.mp hall c hc)

/-! ## Items -/

theorem encode_item (i : Item) (tail : List Char) (rest : List UInt8) :
    Utf8.encode (i.textWith tail) ++ rest = Utf8.encode i.before ++ (Utf8.encode i.value ++
      (Utf8.encode i.after ++ (Utf8.encode tail ++ rest))) := by
  unfold Item.textWith
  simp only [Utf8.encode_append, List.append_assoc]

/-- White space is left out in front of a value, whose first byte is found then. -/
theorem skipSpace_item {i : Item} (hi : i.Spaced) {c : Char} {cs : List Char}
    (hvalue : i.value = c :: cs) (hc : Leads c) (tail : List Char) (rest : List UInt8) :
    skipSpace (Utf8.encode (i.textWith tail) ++ rest) =
      ascii c :: (Utf8.encode cs ++ (Utf8.encode i.after ++ (Utf8.encode tail ++ rest))) := by
  rw [encode_item, skipSpace_spacing hi.before, hvalue, encode_mark hc.small, List.cons_append,
    skipSpace_leads hc]

theorem items_cons (depth rounds : Nat) (first : Bool) (read : List Json) {i : Item} (hi : i.Spaced)
    (hlead : ∃ c cs, i.value = c :: cs ∧ Leads c) (its : List Item) (rest : List UInt8) :
    items (value depth) (rounds + 1) first read (Utf8.encode (itemsText first (i :: its)) ++ rest) =
      (do
        let (v, rest) ← value depth (Utf8.encode i.value ++
          (Utf8.encode i.after ++ (Utf8.encode (itemsText false its) ++ rest)))
        items (value depth) rounds false (read ++ [v]) rest) := by
  obtain ⟨c, cs, hvalue, hc⟩ := hlead
  have hskip := skipSpace_item hi hvalue hc (itemsText false its) rest
  rw [hvalue, encode_mark hc.small, List.cons_append]
  cases first with
  | true =>
    -- the first item comes without a comma, but might have been the closing bracket
    show items (value depth) (rounds + 1) true read
      (Utf8.encode (i.textWith (itemsText false its)) ++ rest) = _
    rw [items, hskip]
    dsimp only
    rw [if_neg hc.bracket, if_pos rfl]
  | false =>
    have hcomma : Utf8.encode (itemsText false (i :: its)) ++ rest =
        ascii ',' :: (Utf8.encode (i.textWith (itemsText false its)) ++ rest) := by
      show Utf8.encode (',' :: i.textWith (itemsText false its)) ++ rest = _
      rw [encode_mark (by decide), List.cons_append]
    have hstart : ∀ bs, skipSpace (ascii ',' :: bs) = ascii ',' :: bs := fun _ => rfl
    rw [hcomma, items, hstart]
    dsimp only
    rw [if_neg (by decide), if_neg (by decide), if_pos rfl, hskip]
    dsimp only
    rw [if_neg hc.bracket]

/-- What follows a value in an array or an object is no part of a number. -/
theorem ends_mark {c : Char} (h : c ∈ [',', ']', '}']) (cs : List Char) (rest : List UInt8) :
    Ends (Utf8.encode (c :: cs) ++ rest) := by
  have hall : ([',', ']', '}'].all fun d => decide (d.toNat < 128 ∧ isDigit (ascii d) = false ∧
      ascii d ≠ ascii '.' ∧ ascii d ≠ ascii 'e' ∧ ascii d ≠ ascii 'E')) = true := by decide
  obtain ⟨hsmall, hends⟩ := of_decide_eq_true (List.all_eq_true.mp hall c h)
  intro b hb
  rw [encode_mark hsmall] at hb
  rw [← Option.some.inj hb]
  exact hends

theorem ends_items {i : Item} (hi : i.Spaced) (its : List Item) (rest : List UInt8) :
    Ends (Utf8.encode i.after ++ (Utf8.encode (itemsText false its) ++ rest)) := by
  refine ends_spacing hi.after ?_
  cases its with
  | nil => exact ends_mark (by simp) [] rest
  | cons j its => exact ends_mark (c := ',') (by simp) _ rest

/-- The closing bracket ends the items; white space behind the last one is left out. -/
theorem items_nil (value : List UInt8 → Reading Json) (rounds : Nat) (first : Bool)
    (read : List Json) (rest : List UInt8) :
    items value (rounds + 1) first read (Utf8.encode (itemsText first []) ++ rest) =
      .ok (read, rest) := by
  have hstart : ∀ bs, skipSpace (ascii ']' :: bs) = ascii ']' :: bs := fun _ => rfl
  show items value (rounds + 1) first read (ascii ']' :: rest) = _
  rw [items, hstart]
  exact if_pos rfl

theorem items_spacing (value : List UInt8 → Reading Json) (rounds : Nat) (first : Bool)
    (read : List Json) {space : List Char} (h : IsSpacing space) (bs : List UInt8) :
    items value (rounds + 1) first read (Utf8.encode space ++ bs) =
      items value (rounds + 1) first read bs := by
  rw [items, items, skipSpace_spacing h]

/-- Items are read one after the other, each with its outcome. -/
theorem items_settle {depth : Nat} {outcome : Item → Option Json} {its : List Item}
    (hits : ∀ i ∈ its, i.Spaced ∧ (∃ c cs, i.value = c :: cs ∧ Leads c) ∧
      Settles (value depth) (Utf8.encode i.value) (outcome i))
    {rounds : Nat} (hrounds : its.length < rounds) (first : Bool) (read : List Json)
    (rest : List UInt8) :
    (items (value depth) rounds first read
      (Utf8.encode (itemsText first its) ++ rest)).toOption =
      (its.mapM outcome).map fun vs => (read ++ vs, rest) := by
  induction its generalizing first read rounds with
  | nil =>
    obtain ⟨rounds, rfl⟩ : ∃ n, rounds = n + 1 := ⟨rounds - 1, by omega⟩
    rw [items_nil]
    exact congrArg (fun vs => some (vs, rest)) (List.append_nil read).symm
  | cons i its ih =>
    -- a second round is there, as the white space behind this item is left out by the next
    obtain ⟨rounds, rfl⟩ : ∃ n, rounds = n + 1 + 1 := ⟨rounds - 2, by
      rw [List.length_cons] at hrounds
      omega⟩
    obtain ⟨hi, hlead, hsettles⟩ := hits i List.mem_cons_self
    rw [items_cons depth _ first read hi hlead, toOption_bind,
      hsettles _ (ends_items hi its rest), List.mapM_cons]
    cases outcome i with
    | none => rfl
    | some v =>
      show Except.toOption (items (value depth) (rounds + 1) false (read ++ [v])
        (Utf8.encode i.after ++ (Utf8.encode (itemsText false its) ++ rest))) = _
      rw [items_spacing _ _ _ _ hi.after,
        ih (fun j hj => hits j (List.mem_cons_of_mem i hj)) (by
          rw [List.length_cons] at hrounds
          omega)]
      cases its.mapM outcome with
      | none => rfl
      | some vs => exact congrArg (fun l => some (l, rest)) (List.append_assoc read [v] vs)

theorem length_items (first : Bool) {its : List Item}
    (hits : ∀ i ∈ its, ∃ c cs, i.value = c :: cs ∧ Leads c) :
    its.length < (Utf8.encode (itemsText first its)).length := by
  induction its generalizing first with
  | nil => exact Nat.one_pos
  | cons i its ih =>
    obtain ⟨c, cs, hvalue, hc⟩ := hits i List.mem_cons_self
    have hrest := ih false fun j hj => hits j (List.mem_cons_of_mem i hj)
    have hitem := encode_item i (itemsText false its) []
    rw [List.append_nil, List.append_nil, hvalue, encode_mark hc.small] at hitem
    rw [itemsText, Utf8.encode_append, List.length_append, hitem, List.length_append,
      List.length_append, List.length_append, List.length_cons, List.length_cons]
    omega

/-! ## Members -/

/-- The name of the next member is found behind its opening quote. -/
theorem nextName_member (first : Bool) {m : Member} (hm : IsSpacing m.before) (ms : List Member)
    (rest : List UInt8) :
    nextName first (Utf8.encode (membersText first (m :: ms)) ++ rest) =
      .ok (some (Utf8.encode (m.openTextWith (membersText false ms)) ++ rest)) := by
  have hquote : ∀ bs, skipSpace (ascii '"' :: bs) = ascii '"' :: bs := fun _ => rfl
  have hopen : skipSpace (Utf8.encode (m.before ++ '"' :: m.openTextWith (membersText false ms)) ++
      rest) = ascii '"' :: (Utf8.encode (m.openTextWith (membersText false ms)) ++ rest) := by
    rw [Utf8.encode_append, List.append_assoc, skipSpace_spacing hm, encode_mark (by decide),
      List.cons_append, hquote]
  cases first with
  | true =>
    show nextName true (Utf8.encode (m.before ++ '"' :: m.openTextWith (membersText false ms)) ++
      rest) = _
    rw [nextName, hopen]
    dsimp only
    rw [if_neg (by decide), if_pos rfl, if_pos rfl]
  | false =>
    have hcomma : Utf8.encode (membersText false (m :: ms)) ++ rest = ascii ',' ::
        (Utf8.encode (m.before ++ '"' :: m.openTextWith (membersText false ms)) ++ rest) := by
      show Utf8.encode (',' :: (m.before ++ '"' :: m.openTextWith (membersText false ms))) ++
        rest = _
      rw [encode_mark (by decide), List.cons_append]
    have hstart : ∀ bs, skipSpace (ascii ',' :: bs) = ascii ',' :: bs := fun _ => rfl
    rw [hcomma, nextName, hstart]
    dsimp only
    rw [if_neg (by decide), if_neg (by decide), if_pos rfl, hopen]
    dsimp only
    rw [if_pos rfl]

theorem nextName_end (first : Bool) (rest : List UInt8) :
    nextName first (Utf8.encode (membersText first []) ++ rest) = .ok none :=
  nextName_nil first rest

theorem nextName_spacing (first : Bool) {space : List Char} (h : IsSpacing space)
    (bs : List UInt8) : nextName first (Utf8.encode space ++ bs) = nextName first bs := by
  rw [nextName, nextName, skipSpace_spacing h]

theorem encode_member (m : Member) (tail : List Char) (rest : List UInt8) :
    Utf8.encode (m.openTextWith tail) ++ rest = Utf8.encode (closedText m.name) ++
      (Utf8.encode m.between ++ ascii ':' :: (Utf8.encode (m.item.textWith tail) ++ rest)) := by
  unfold Member.openTextWith
  rw [Utf8.encode_append, Utf8.encode_append, encode_mark (by decide), List.append_assoc,
    List.append_assoc, List.cons_append]

theorem colon_spacing {space : List Char} (h : IsSpacing space) (bs : List UInt8) :
    colon (Utf8.encode space ++ ascii ':' :: bs) = .ok bs := by
  have hstart : skipSpace (ascii ':' :: bs) = ascii ':' :: bs := rfl
  rw [colon, skipSpace_spacing h, hstart]
  exact if_pos rfl

theorem ends_members {i : Item} (hi : i.Spaced) (ms : List Member) (rest : List UInt8) :
    Ends (Utf8.encode i.after ++ (Utf8.encode (membersText false ms) ++ rest)) := by
  refine ends_spacing hi.after ?_
  cases ms with
  | nil => exact ends_mark (by simp) [] rest
  | cons m ms => exact ends_mark (c := ',') (by simp) _ rest

/-- The bytes of a string behind its opening quote settle on a text. -/
def SettlesText (pieces : List Piece) (text : Option String) : Prop :=
  ∀ rest, (string (Utf8.encode (closedText pieces) ++ rest)).toOption = text.map (·, rest)

/-- What a member denotes, if its name and its value denote anything. -/
def memberOutcome (name : Member → Option String) (value : Member → Option Json) (m : Member) :
    Option (String × Json) :=
  (name m).bind fun n => (value m).map (n, ·)

theorem fields_spacing (value : List UInt8 → Reading Json) (rounds : Nat) (first : Bool)
    (read : List (String × Json)) {space : List Char} (h : IsSpacing space) (bs : List UInt8) :
    fields value (rounds + 1) first read (Utf8.encode space ++ bs) =
      fields value (rounds + 1) first read bs := by
  rw [fields, fields, nextName_spacing first h, skipSpace_spacing h]

theorem fields_cons (value : List UInt8 → Reading Json) (rounds : Nat) (first : Bool)
    (read : List (String × Json)) {m : Member} (hm : IsSpacing m.before) (ms : List Member)
    (rest : List UInt8) :
    fields value (rounds + 1) first read (Utf8.encode (membersText first (m :: ms)) ++ rest) =
      (do
        let (name, rest) ← string (Utf8.encode (m.openTextWith (membersText false ms)) ++ rest)
        let (v, rest) ← value (← colon rest)
        fields value rounds false (put name v read) rest) := by
  rw [fields, nextName_member first hm]
  rfl

/-- Members are read one after the other, each with its outcome. -/
theorem fields_settle {depth : Nat} {name : Member → Option String} {outcome : Member → Option Json}
    {ms : List Member}
    (hms : ∀ m ∈ ms, m.Proper ∧ SettlesText m.name (name m) ∧
      Settles (value depth) (Utf8.encode m.item.value) (outcome m))
    {rounds : Nat} (hrounds : ms.length < rounds) (first : Bool) (read : List (String × Json))
    (rest : List UInt8) :
    (fields (value depth) rounds first read
      (Utf8.encode (membersText first ms) ++ rest)).toOption =
      (ms.mapM (memberOutcome name outcome)).map fun vs =>
        (vs.foldl (fun read e => put e.1 e.2 read) read, rest) := by
  induction ms generalizing first read rounds with
  | nil =>
    obtain ⟨rounds, rfl⟩ : ∃ n, rounds = n + 1 := ⟨rounds - 1, by omega⟩
    have hskip : (skipSpace (Utf8.encode (membersText first []) ++ rest)).tail = rest := rfl
    rw [fields, nextName_end]
    simp only [bind, Except.bind]
    rw [hskip]
    rfl
  | cons m ms ih =>
    obtain ⟨rounds, rfl⟩ : ∃ n, rounds = n + 1 + 1 := ⟨rounds - 2, by
      rw [List.length_cons] at hrounds
      omega⟩
    obtain ⟨hm, hname, hsettles⟩ := hms m List.mem_cons_self
    rw [fields_cons _ _ _ _ hm.before, toOption_bind, encode_member, hname, List.mapM_cons,
      memberOutcome]
    cases name m with
    | none => rfl
    | some n =>
      -- behind the name stands the colon, and behind that the value
      show Except.toOption (colon _ >>= fun bs => _) = _
      rw [colon_spacing hm.between]
      show Except.toOption (value depth _ >>= fun v => _) = _
      rw [encode_item, value_spacing _ hm.item.before, toOption_bind,
        hsettles _ (ends_members hm.item ms rest)]
      cases outcome m with
      | none => rfl
      | some v =>
        show Except.toOption (fields (value depth) (rounds + 1) false (put n v read) _) = _
        rw [fields_spacing _ _ _ _ hm.item.after,
          ih (fun k hk => hms k (List.mem_cons_of_mem m hk)) (by
            rw [List.length_cons] at hrounds
            omega)]
        show _ = Option.map _ ((ms.mapM (memberOutcome name outcome)).bind fun vs =>
          some ((n, v) :: vs))
        cases ms.mapM (memberOutcome name outcome) <;> rfl

theorem length_members (first : Bool) (ms : List Member) :
    ms.length < (Utf8.encode (membersText first ms)).length := by
  have hquote : ∀ cs, Utf8.encode ('"' :: cs) = ascii '"' :: Utf8.encode cs :=
    encode_mark (by decide)
  have hcolon : ∀ cs, Utf8.encode (':' :: cs) = ascii ':' :: Utf8.encode cs :=
    encode_mark (by decide)
  induction ms generalizing first with
  | nil => exact Nat.one_pos
  | cons m ms ih =>
    have hrest := ih false
    simp only [membersText, Member.openTextWith, Item.textWith, Utf8.encode_append, hquote, hcolon,
      List.length_append, List.length_cons]
    omega

/-! ## Values -/

theorem value_bracket (depth : Nat) (bs : List UInt8) :
    value (depth + 1) (ascii '[' :: bs) =
      (items (value depth) (bs.length + 1) true [] bs).map fun (vs, rest) =>
        (Json.array vs, rest) := by
  have hskip : skipSpace (ascii '[' :: bs) = ascii '[' :: bs := rfl
  rw [value.eq_def]
  dsimp only
  rw [hskip]
  dsimp only
  rw [if_neg (by decide), if_neg (by decide), if_neg (by decide), if_neg (by decide),
    if_neg (by decide), if_neg (by decide), if_pos rfl]

/-- An array with an outcome for every item. -/
theorem array_settles {depth : Nat} {outcome : Item → Option Json} {space : List Char}
    (hspace : IsSpacing space) {its : List Item}
    (hits : ∀ i ∈ its, i.Spaced ∧ (∃ c cs, i.value = c :: cs ∧ Leads c) ∧
      Settles (value depth) (Utf8.encode i.value) (outcome i)) :
    Settles (value (depth + 1)) (Utf8.encode ('[' :: (space ++ itemsText true its)))
      ((its.mapM outcome).map .array) := by
  intro rest _
  have hlength := length_items true fun i hi => (hits i hi).2.1
  rw [encode_mark (by decide), Utf8.encode_append, List.cons_append, List.append_assoc,
    value_bracket, toOption_map, items_spacing _ _ _ _ hspace, items_settle hits (by
      rw [List.length_append, List.length_append]
      omega)]
  cases its.mapM outcome <;> rfl

/-- What members denote together: of those with one name, the last stands in the place of the
first. -/
def objectOutcome (name : Member → Option String) (value : Member → Option Json)
    (ms : List Member) : Option Json :=
  (ms.mapM (memberOutcome name value)).map fun vs =>
    .object (vs.foldl (fun read e => put e.1 e.2 read) [])

/-- An object with an outcome for the name and the value of every member. -/
theorem object_settles {depth : Nat} {name : Member → Option String}
    {outcome : Member → Option Json} {space : List Char} (hspace : IsSpacing space)
    {ms : List Member}
    (hms : ∀ m ∈ ms, m.Proper ∧ SettlesText m.name (name m) ∧
      Settles (value depth) (Utf8.encode m.item.value) (outcome m)) :
    Settles (value (depth + 1)) (Utf8.encode ('\x7b' :: (space ++ membersText true ms)))
      (objectOutcome name outcome ms) := by
  intro rest _
  have hlength := length_members true ms
  rw [encode_mark (by decide), Utf8.encode_append, List.cons_append, List.append_assoc,
    value_brace, toOption_map, fields_spacing _ _ _ _ hspace, fields_settle hms (by
      rw [List.length_append, List.length_append]
      omega), objectOutcome]
  cases ms.mapM (memberOutcome name outcome) <;> rfl

/-- A choice of outcomes for the parts of a list. -/
theorem exists_outcomes {α β : Type} {l : List α} {P : α → Option β → Prop}
    (h : ∀ a ∈ l, ∃ o, P a o) : ∃ outcome : α → Option β, ∀ a ∈ l, P a (outcome a) := by
  have hall : ∀ a, ∃ o, a ∈ l → P a o := by
    intro a
    -- outside the list any outcome will do
    by_cases ha : a ∈ l
    · obtain ⟨o, ho⟩ := h a ha
      exact ⟨o, fun _ => ho⟩
    · exact ⟨none, fun hmem => absurd hmem ha⟩
  obtain ⟨outcome, houtcome⟩ := Classical.axiomOfChoice hall
  exact ⟨outcome, fun a ha => houtcome a ha⟩

/-- A word is read as what it stands for. -/
theorem null_settles (depth : Nat) :
    Settles (value depth) (Utf8.encode "null".toList) (some .null) := by
  intro rest _
  have hbytes : Utf8.encode "null".toList ++ rest =
      ascii 'n' :: ascii 'u' :: ascii 'l' :: ascii 'l' :: rest := rfl
  have hskip : ∀ bs, skipSpace (ascii 'n' :: bs) = ascii 'n' :: bs := fun _ => rfl
  rw [hbytes, value.eq_def]
  dsimp only
  rw [hskip]
  dsimp only
  rw [if_pos rfl]
  rfl

theorem true_settles (depth : Nat) :
    Settles (value depth) (Utf8.encode "true".toList) (some (.bool true)) := by
  intro rest _
  have hbytes : Utf8.encode "true".toList ++ rest =
      ascii 't' :: ascii 'r' :: ascii 'u' :: ascii 'e' :: rest := rfl
  have hskip : ∀ bs, skipSpace (ascii 't' :: bs) = ascii 't' :: bs := fun _ => rfl
  rw [hbytes, value.eq_def]
  dsimp only
  rw [hskip]
  dsimp only
  rw [if_neg (by decide), if_pos rfl]
  rfl

theorem false_settles (depth : Nat) :
    Settles (value depth) (Utf8.encode "false".toList) (some (.bool false)) := by
  intro rest _
  have hbytes : Utf8.encode "false".toList ++ rest =
      ascii 'f' :: ascii 'a' :: ascii 'l' :: ascii 's' :: ascii 'e' :: rest := rfl
  have hskip : ∀ bs, skipSpace (ascii 'f' :: bs) = ascii 'f' :: bs := fun _ => rfl
  rw [hbytes, value.eq_def]
  dsimp only
  rw [hskip]
  dsimp only
  rw [if_neg (by decide), if_neg (by decide), if_pos rfl]
  rfl

/-- A number is written with digits, signs, a point and the mark of a power. -/
theorem unsigned_marks {t : NumberText} (h : t.Proper) : ∀ c ∈ t.unsigned, Numeral.IsMark c := by
  intro c hc
  unfold NumberText.unsigned at hc
  -- by its parts: digits in front, a point with its digits, and a power of ten
  rcases List.mem_append.mp hc with hc | hc
  · exact .inl (h.wholeDigits c hc)
  rcases List.mem_append.mp hc with hc | hc
  · cases hfraction : t.fraction with
    | nil =>
      rw [hfraction] at hc
      cases hc
    | cons f fs =>
      rw [hfraction] at hc
      rcases List.mem_cons.mp hc with rfl | hc
      · exact .inr (by decide)
      · exact .inl (h.fractionDigits c (hfraction ▸ hc))
  · cases hpower : t.power with
    | none =>
      rw [hpower] at hc
      cases hc
    | some power =>
      obtain ⟨mark, sign, ds⟩ := power
      have hproper := h.power mark sign ds hpower
      rw [hpower] at hc
      rcases List.mem_cons.mp hc with rfl | hc
      · exact .inr (by rcases hproper.mark with rfl | rfl <;> decide)
      rcases List.mem_append.mp hc with hc | hc
      · refine .inr ?_
        rcases hproper.sign c (Option.mem_toList.mp hc) with rfl | rfl <;> decide
      · exact .inl (hproper.digits c hc)

theorem text_marks {t : NumberText} (h : t.Proper) : ∀ c ∈ t.text, Numeral.IsMark c := by
  intro c hc
  rcases List.mem_append.mp hc with hc | hc
  · split at hc
    · rw [List.mem_singleton.mp hc]
      exact .inr (by decide)
    · cases hc
  · exact unsigned_marks h c hc

theorem unsigned_ascii {t : NumberText} (h : t.Proper) : ∀ c ∈ t.unsigned, c.toNat < 128 := by
  have hall : (['-', '+', '.', 'e', 'E'].all fun c => decide (c.toNat < 128)) = true := by decide
  intro c hc
  rcases unsigned_marks h c hc with hdigit | hmark
  · exact Nat.lt_of_le_of_lt (toNat_digit hdigit).2 (by decide)
  · exact of_decide_eq_true (List.all_eq_true.mp hall c hmark)

theorem encode_number {t : NumberText} (h : t.Proper) :
    Utf8.encode t.text = (if t.negative then [ascii '-'] else []) ++ t.unsigned.map ascii := by
  rw [NumberText.text, Utf8.encode_append, encode_ascii (unsigned_ascii h)]
  cases t.negative <;> rfl

theorem value_numberText (depth : Nat) {t : NumberText} (h : t.Proper) (rest : List UInt8) :
    value depth (Utf8.encode t.text ++ rest) = number t.negative (t.unsigned.map ascii ++ rest) := by
  obtain ⟨d, ds, hwhole, -⟩ := h.whole
  have hd := h.wholeDigits d (hwhole ▸ List.mem_cons_self)
  obtain ⟨bs, hbs⟩ : ∃ bs, t.unsigned.map ascii = ascii d :: bs := by
    rw [NumberText.unsigned, hwhole]
    exact ⟨_, rfl⟩
  rw [encode_number h, hbs, List.append_assoc, List.cons_append, value_number depth t.negative hd]

/-- A number has one outcome, which is a number. -/
theorem numberText_settles {t : NumberText} (h : t.Proper) :
    ∃ outcome : Option Json, (∀ v ∈ outcome, v.IsNumber) ∧
      ∀ depth, Settles (value depth) (Utf8.encode t.text) outcome := by
  obtain ⟨outcome, hnumber, hsettles⟩ := number_settles h
  refine ⟨outcome, hnumber, fun depth rest hrest => ?_⟩
  rw [value_numberText depth h, hsettles rest hrest]

/-- A string has one outcome, which is a string. -/
theorem stringText_settles {pieces : List Piece} (h : ∀ p ∈ pieces, p.Proper) :
    ∃ text : Option String, SettlesText pieces text ∧
      ∀ depth, Settles (value depth) (Utf8.encode (stringText pieces)) (text.map .string) := by
  obtain ⟨text, htext⟩ := string_settles h
  refine ⟨text, htext, fun depth rest _ => ?_⟩
  rw [stringText, encode_mark (by decide), List.cons_append, value_quote, toOption_map, htext]
  cases text <;> rfl

/-- A value of the grammar has one outcome, at every depth that it fits into. -/
theorem value_settles {d : Nat} {cs : List Char} (h : Written d cs) :
    ∃ outcome, ∀ depth, d ≤ depth → Settles (value depth) (Utf8.encode cs) outcome := by
  induction h with
  | null => exact ⟨some .null, fun depth _ => null_settles depth⟩
  | true => exact ⟨some (.bool true), fun depth _ => true_settles depth⟩
  | false => exact ⟨some (.bool false), fun depth _ => false_settles depth⟩
  | number h =>
    obtain ⟨outcome, -, hsettles⟩ := numberText_settles h
    exact ⟨outcome, fun depth _ => hsettles depth⟩
  | string h =>
    obtain ⟨text, -, hsettles⟩ := stringText_settles h
    exact ⟨text.map .string, fun depth _ => hsettles depth⟩
  | @array d space its hspace hitems h ih =>
    -- the outcome of each item is the same at every depth, so one choice serves for all of them
    obtain ⟨outcome, houtcome⟩ := exists_outcomes ih
    refine ⟨(its.mapM outcome).map .array, fun depth hdepth => ?_⟩
    obtain ⟨depth, rfl⟩ : ∃ n, depth = n + 1 := ⟨depth - 1, by omega⟩
    exact array_settles hspace fun i hi =>
      ⟨hitems i hi, written_leads (h i hi), houtcome i hi depth (by omega)⟩
  | @object d space ms hspace hmembers h ih =>
    obtain ⟨outcome, houtcome⟩ := exists_outcomes ih
    obtain ⟨name, hname⟩ := exists_outcomes (P := fun (m : Member) o => SettlesText m.name o)
      fun m hm => string_settles (hmembers m hm).name
    refine ⟨objectOutcome name outcome ms, fun depth hdepth => ?_⟩
    obtain ⟨depth, rfl⟩ : ∃ n, depth = n + 1 := ⟨depth - 1, by omega⟩
    exact object_settles hspace fun m hm =>
      ⟨hmembers m hm, hname m hm, houtcome m hm depth (by omega)⟩

/-! ## Whole texts -/

end Read

open Read

/-- The value that a text denotes, if it denotes any. -/
def denoted? (cs : List Char) : Option Json :=
  (parse (String.ofList cs)).toOption

/-- What a reader settles on at the greatest depth is what the text denotes, with white space around it
or without. -/
theorem denoted?_spaced {before cs after : List Char} (hbefore : IsSpacing before)
    (hafter : IsSpacing after) {outcome : Option Json}
    (h : Settles (value maxDepth) (Utf8.encode cs) outcome) :
    denoted? (before ++ (cs ++ after)) = outcome := by
  have hread := h (Utf8.encode after ++ []) (ends_spacing hafter fun b hb => nomatch hb)
  rw [List.append_nil] at hread
  unfold denoted? parse parseBytes Utf8.bytes
  rw [String.toList_ofList, Utf8.encode_append, Utf8.encode_append, value_spacing _ hbefore]
  dsimp only
  rw [toOption_mapError, toOption_bind, hread]
  cases outcome with
  | none => rfl
  | some v => exact congrArg Except.toOption (finish_spacing v hafter)

theorem denoted?_eq {cs : List Char} {outcome : Option Json}
    (h : Settles (value maxDepth) (Utf8.encode cs) outcome) : denoted? cs = outcome := by
  have hnone : IsSpacing [] := List.forall_mem_nil _
  have hspaced := denoted?_spaced hnone hnone h
  rwa [List.append_nil, List.nil_append] at hspaced

/-- A value of the grammar settles on what it denotes. -/
theorem settles_denoted {d : Nat} {cs : List Char} (h : Written d cs) (hd : d ≤ maxDepth)
    {depth : Nat} (hdepth : d ≤ depth) : Settles (value depth) (Utf8.encode cs) (denoted? cs) := by
  obtain ⟨outcome, hsettles⟩ := value_settles h
  rw [denoted?_eq (hsettles maxDepth hd)]
  exact hsettles depth hdepth

/-- The text that a string denotes, if it denotes any. -/
def text? (pieces : List Piece) : Option String :=
  match denoted? (stringText pieces) with
  | some (.string s) => some s
  | _ => none

/-- A string of the grammar settles on what it denotes. -/
theorem settles_text {pieces : List Piece} (h : ∀ p ∈ pieces, p.Proper) :
    SettlesText pieces (text? pieces) ∧
      denoted? (stringText pieces) = (text? pieces).map .string := by
  obtain ⟨text, htext, hsettles⟩ := stringText_settles h
  have hdenoted := denoted?_eq (hsettles maxDepth)
  have htext? : text? pieces = text := by
    rw [text?, hdenoted]
    cases text <;> rfl
  rw [htext?]
  exact ⟨htext, hdenoted⟩

namespace Member

/-- The name of a member, if it denotes a text. -/
def name? (m : Member) : Option String :=
  text? m.name

/-- The value of a member, if it denotes any. -/
def value? (m : Member) : Option Json :=
  denoted? m.item.value

end Member

end TableFeed.Json
