import TableFeed.Proofs.Json.Written

/-!
# Values are passed over

Values of the grammar are passed over to their end, whatever they denote and however deep they nest.
The reader that does so keeps the brackets that are open, and goes on behind each value with the
brackets around it (`resume`).

* **`resume_items`**, **`resume_members`** — what is left of an array or an object is passed over.
* **`skipValues_written`** — the crux: so is a value inside any brackets.
* **`skipValue_item`** — and one that stands alone, with the white space in front of it.
-/

namespace TableFeed.Json.Read

variable {rounds : Nat} {frames : List Frame} {bs rest : List UInt8}

/-! ## Rounds of the reader -/

/-- The first part of a value: all of it, or its opening bracket. -/
def opening (bs : List UInt8) : Except Failure (Option Frame × List UInt8) :=
  match skipSpace bs with
  | [] => failNext .eofValue []
  | b :: rest =>
    if b = ascii 'n' then (word "ull".toList rest).map (none, ·)
    else if b = ascii 't' then (word "rue".toList rest).map (none, ·)
    else if b = ascii 'f' then (word "alse".toList rest).map (none, ·)
    else if b = ascii '-' then (skipNumber rest).map (none, ·)
    else if isDigit b then (skipNumber (b :: rest)).map (none, ·)
    else if b = ascii '"' then (skipString (rest.length + 1) rest).map (none, ·)
    else if b = ascii '[' then .ok (some Frame.list, rest)
    else if b = ascii '\x7b' then .ok (some Frame.object, rest)
    else failNext .expectedValue (b :: rest)

/-- Goes on with the value that comes next inside some brackets, if there is any. -/
def goOn (rounds : Nat) : List Frame → List UInt8 → Except Failure (List UInt8)
  | [], rest => .ok rest
  | .list :: frames, rest => skipValues rounds (.list :: frames) rest
  | .object :: frames, rest => do skipValues rounds (.object :: frames) (← skipName rest)

/-- Goes on behind a value (`comma` allowed) or behind an opening bracket. -/
def resume (comma : Bool) (rounds : Nat) (frames : List Frame) (bs : List UInt8) :
    Except Failure (List UInt8) := do
  let (frames, rest) ← closeFrames comma frames bs
  goOn rounds frames rest

theorem resume_congr {comma comma' : Bool} {frames' : List Frame} {bs' : List UInt8}
    (h : closeFrames comma frames bs = closeFrames comma' frames' bs') :
    resume comma rounds frames bs = resume comma' rounds frames' bs' := by
  rw [resume, h, resume]

theorem resume_of_ok {comma : Bool} {frames' : List Frame}
    (h : closeFrames comma frames bs = .ok (frames', rest)) :
    resume comma rounds frames bs = goOn rounds frames' rest := by
  rw [resume, h]
  rfl

theorem skipValues_succ (rounds : Nat) (frames : List Frame) (bs : List UInt8) :
    skipValues (rounds + 1) frames bs = (do
      let (opened, rest) ← opening bs
      resume opened.isNone rounds (opened.toList ++ frames) rest) := by
  rw [skipValues]
  refine congrArg (opening bs >>= ·) (funext fun (opened, rest) => ?_)
  refine congrArg (bind (m := Except Failure)
    (closeFrames opened.isNone (opened.toList ++ frames) rest)) (funext fun (frames, rest) => ?_)
  rcases frames with _ | ⟨_ | _, frames⟩ <;> rfl

theorem skipValues_of_closed (h : opening bs = .ok (none, rest)) :
    skipValues (rounds + 1) frames bs = resume true rounds frames rest := by
  rw [skipValues_succ, h]
  rfl

theorem skipValues_of_opened {frame : Frame} (h : opening bs = .ok (some frame, rest)) :
    skipValues (rounds + 1) frames bs = resume false rounds (frame :: frames) rest := by
  rw [skipValues_succ, h]
  rfl

theorem skipValues_congr {bs' : List UInt8} (h : skipSpace bs = skipSpace bs') :
    skipValues (rounds + 1) frames bs = skipValues (rounds + 1) frames bs' := by
  have hopening : opening bs = opening bs' := by
    unfold opening
    rw [h]
  rw [skipValues_succ, skipValues_succ, hopening]

/-- A value of the grammar is passed over: the reader goes on behind it, with rounds enough. -/
def Skips (cs : List Char) : Prop :=
  ∀ rounds frames rest, Ends rest → (Utf8.encode cs ++ rest).length < rounds →
    ∃ left, rest.length < left ∧
      skipValues rounds frames (Utf8.encode cs ++ rest) = resume true left frames rest

/-- What is passed over at once is passed over in one round. -/
theorem skips_of_opening {cs : List Char} (hne : cs ≠ [])
    (h : ∀ rest, Ends rest → opening (Utf8.encode cs ++ rest) = .ok (none, rest)) : Skips cs := by
  intro rounds frames rest hrest hrounds
  have hpos : 0 < (Utf8.encode cs).length := by
    obtain ⟨c, cs, rfl⟩ := List.exists_cons_of_ne_nil hne
    rw [Utf8.encode_cons, List.length_append]
    exact Nat.add_pos_left (List.length_pos_of_ne_nil String.utf8EncodeChar_ne_nil) _
  rw [List.length_append] at hrounds
  obtain ⟨rounds, rfl⟩ : ∃ n, rounds = n + 1 := ⟨rounds - 1, by omega⟩
  exact ⟨rounds, by omega, skipValues_of_closed (h rest hrest)⟩

/-! ## Values without brackets -/

theorem skips_null : Skips "null".toList :=
  skips_of_opening (by decide) fun _ _ => rfl

theorem skips_true : Skips "true".toList :=
  skips_of_opening (by decide) fun _ _ => rfl

theorem skips_false : Skips "false".toList :=
  skips_of_opening (by decide) fun _ _ => rfl

theorem opening_minus (bs : List UInt8) :
    opening (ascii '-' :: bs) = (skipNumber bs).map (none, ·) := by
  have hskip : skipSpace (ascii '-' :: bs) = ascii '-' :: bs := rfl
  rw [opening, hskip]
  rfl

theorem opening_digit {d : Char} (hd : d.isDigit = true) (bs : List UInt8) :
    opening (ascii d :: bs) = (skipNumber (ascii d :: bs)).map (none, ·) := by
  have hrange := toNat_digit hd
  have hne : ∀ {c : Char}, c.toNat < 128 → c.isDigit = false → ¬ ascii d = ascii c := by
    intro c hc hno heq
    rw [(ascii_inj (by omega) hc).mp heq, hno] at hd
    cases hd
  rw [opening, skipSpace_leads (leads_digit hd)]
  dsimp only
  rw [if_neg (hne (by decide) (by decide)), if_neg (hne (by decide) (by decide)),
    if_neg (hne (by decide) (by decide)), if_neg (hne (by decide) (by decide)),
    if_pos (isDigit_ascii hd)]

theorem skips_number {t : NumberText} (h : t.Proper) : Skips t.text := by
  obtain ⟨d, ds, hwhole, -⟩ := h.whole
  have hd := h.wholeDigits d (hwhole ▸ List.mem_cons_self)
  obtain ⟨tail, hunsigned⟩ : ∃ tail, t.unsigned = d :: tail := by
    rw [NumberText.unsigned, hwhole]
    exact ⟨_, rfl⟩
  refine skips_of_opening ?_ fun rest hrest => ?_
  · rw [NumberText.text, hunsigned]
    exact List.append_ne_nil_of_right_ne_nil _ (List.cons_ne_nil d tail)
  · have hskip := skipNumber_text h hrest
    rw [encode_number h]
    cases t.negative with
    | true =>
      show opening (ascii '-' :: (t.unsigned.map ascii ++ rest)) = _
      rw [opening_minus, hskip]
      rfl
    | false =>
      show opening (t.unsigned.map ascii ++ rest) = _
      rw [hunsigned, List.map_cons, List.cons_append] at hskip ⊢
      rw [opening_digit hd, hskip]
      rfl

theorem skips_string {pieces : List Piece} (h : ∀ p ∈ pieces, p.Proper) :
    Skips (stringText pieces) := by
  refine skips_of_opening (List.cons_ne_nil _ _) fun rest _ => ?_
  have hquote : skipSpace (ascii '"' :: (Utf8.encode (closedText pieces) ++ rest)) =
      ascii '"' :: (Utf8.encode (closedText pieces) ++ rest) := rfl
  have hskip : skipString ((Utf8.encode (closedText pieces) ++ rest).length + 1)
      (Utf8.encode (closedText pieces) ++ rest) = .ok rest := by
    refine skipString_closed h ?_
    rw [List.length_append]
    omega
  rw [stringText, encode_mark (by decide), List.cons_append, opening, hquote]
  dsimp only
  rw [hskip]
  rfl

/-! ## Arrays and objects -/

/-- The mark that closes a bracket. -/
def closing : Frame → Char
  | .list => ']'
  | .object => '\x7d'

/-- A closing bracket ends what it closes. -/
theorem closeFrames_close (comma : Bool) (frame : Frame) {space : List Char} (h : IsSpacing space)
    (rest : List UInt8) :
    closeFrames comma (frame :: frames) (Utf8.encode space ++ ascii (closing frame) :: rest) =
      closeFrames true frames rest := by
  have hskip : skipSpace (Utf8.encode space ++ ascii (closing frame) :: rest) =
      ascii (closing frame) :: rest := by
    rw [skipSpace_spacing h]
    cases frame <;> rfl
  have hcomma : ¬ (comma = true ∧ ascii (closing frame) = ascii ',') := fun hboth => by
    cases frame <;> exact absurd hboth.2 (by decide)
  rw [closeFrames.eq_def]
  dsimp only
  rw [hskip]
  dsimp only
  rw [if_neg hcomma]
  cases frame <;> exact if_pos rfl

theorem closeFrames_comma (frame : Frame) {space : List Char} (h : IsSpacing space)
    (rest : List UInt8) :
    closeFrames true (frame :: frames) (Utf8.encode space ++ ascii ',' :: rest) =
      .ok (frame :: frames, rest) := by
  have hskip : skipSpace (ascii ',' :: rest) = ascii ',' :: rest := rfl
  rw [closeFrames.eq_def]
  dsimp only
  rw [skipSpace_spacing h, hskip]
  exact if_pos ⟨rfl, rfl⟩

/-- Behind an opening bracket comes the first value, unless the bracket is closed. -/
theorem closeFrames_open (frames : List Frame) (frame : Frame) {b : UInt8}
    (h : skipSpace bs = b :: rest) (hb : b ≠ ascii (closing frame)) :
    closeFrames false (frame :: frames) bs = .ok (frame :: frames, b :: rest) := by
  rw [closeFrames.eq_def]
  dsimp only
  rw [h]
  dsimp only
  rw [if_neg fun hboth => by cases hboth.1]
  cases frame <;> exact if_neg hb

/-- A value inside brackets that goes on with what is left of them. -/
theorem skipValues_item (frames : List Frame) (rounds : Nat) {i : Item} (hi : i.Spaced)
    (hskips : Skips i.value) {tail : List Char}
    (hends : Ends (Utf8.encode i.after ++ (Utf8.encode tail ++ rest)))
    (hrounds : (Utf8.encode (i.textWith tail) ++ rest).length < rounds) :
    ∃ left, (Utf8.encode tail ++ rest).length < left ∧
      skipValues rounds frames (Utf8.encode (i.textWith tail) ++ rest) =
        resume true left frames (Utf8.encode i.after ++ (Utf8.encode tail ++ rest)) := by
  rw [encode_item, List.length_append] at hrounds
  obtain ⟨rounds, rfl⟩ : ∃ n, rounds = n + 1 := ⟨rounds - 1, by omega⟩
  -- the white space in front is left out in the round that reads the value
  obtain ⟨left, hleft, hskip⟩ := hskips (rounds + 1) frames _ hends (by omega)
  rw [List.length_append] at hleft
  refine ⟨left, by omega, ?_⟩
  rw [encode_item, skipValues_congr (skipSpace_spacing hi.before _), hskip]

/-- What is left of the items of an array, behind one of them. -/
theorem resume_items (frames : List Frame) {its : List Item}
    (hits : ∀ i ∈ its, i.Spaced ∧ Skips i.value) {space : List Char} (hspace : IsSpacing space)
    (hrounds : (Utf8.encode (itemsText false its) ++ rest).length < rounds) :
    ∃ left, rest.length < left ∧
      resume true rounds (.list :: frames)
        (Utf8.encode space ++ (Utf8.encode (itemsText false its) ++ rest)) =
        resume true left frames rest := by
  induction its generalizing space rounds with
  | nil =>
    exact ⟨rounds, Nat.lt_of_succ_lt hrounds,
      resume_congr (closeFrames_close true .list hspace rest)⟩
  | cons i its ih =>
    obtain ⟨hi, hskips⟩ := hits i List.mem_cons_self
    have hcomma : Utf8.encode (itemsText false (i :: its)) ++ rest =
        ascii ',' :: (Utf8.encode (i.textWith (itemsText false its)) ++ rest) := by
      show Utf8.encode (',' :: i.textWith (itemsText false its)) ++ rest = _
      rw [encode_mark (by decide), List.cons_append]
    rw [hcomma, List.length_cons] at hrounds
    -- the comma, the item behind it, and by induction what is left behind that
    obtain ⟨middle, hmiddle, hitem⟩ := skipValues_item (.list :: frames) rounds hi hskips
      (ends_items hi its rest) (by omega)
    obtain ⟨left, hleft, hrest⟩ :=
      ih (fun j hj => hits j (List.mem_cons_of_mem i hj)) hi.after hmiddle
    refine ⟨left, hleft, ?_⟩
    rw [hcomma, ← hrest, ← hitem]
    exact resume_of_ok (closeFrames_comma .list hspace _)

theorem opening_bracket (frame : Frame) (bs : List UInt8) :
    opening (ascii (match frame with | .list => '[' | .object => '\x7b') :: bs) =
      .ok (some frame, bs) := by
  have hlist : skipSpace (ascii '[' :: bs) = ascii '[' :: bs := rfl
  have hobject : skipSpace (ascii '\x7b' :: bs) = ascii '\x7b' :: bs := rfl
  cases frame with
  | list =>
    rw [opening, hlist]
    rfl
  | object =>
    rw [opening, hobject]
    rfl

theorem skips_array {space : List Char} (hspace : IsSpacing space) {its : List Item}
    (hits : ∀ i ∈ its, i.Spaced ∧ (∃ c cs, i.value = c :: cs ∧ Leads c) ∧ Skips i.value) :
    Skips ('[' :: (space ++ itemsText true its)) := by
  intro rounds frames rest _ hrounds
  have hbytes : Utf8.encode ('[' :: (space ++ itemsText true its)) ++ rest =
      ascii '[' :: (Utf8.encode space ++ (Utf8.encode (itemsText true its) ++ rest)) := by
    rw [encode_mark (by decide), Utf8.encode_append, List.cons_append, List.append_assoc]
  rw [hbytes, List.length_cons, List.length_append] at hrounds
  obtain ⟨rounds, rfl⟩ : ∃ n, rounds = n + 1 := ⟨rounds - 1, by omega⟩
  rw [hbytes, skipValues_of_opened (opening_bracket .list _)]
  cases its with
  | nil =>
    have hclose : (Utf8.encode (itemsText true []) ++ rest).length = rest.length + 1 := rfl
    exact ⟨rounds, by omega, resume_congr (closeFrames_close false .list hspace rest)⟩
  | cons i its =>
    obtain ⟨hi, ⟨c, cs, hvalue, hc⟩, hskips⟩ := hits i List.mem_cons_self
    have hfirst := skipSpace_item hi hvalue hc (itemsText false its) rest
    obtain ⟨middle, hmiddle, hitem⟩ := skipValues_item (.list :: frames) rounds hi hskips
      (ends_items hi its rest) (Nat.lt_of_succ_lt_succ (by
        show (Utf8.encode (itemsText true (i :: its)) ++ rest).length + 1 < _
        omega))
    have hlater : ∀ j ∈ its, j.Spaced ∧ Skips j.value := by
      intro j hj
      obtain ⟨hj, -, hskips⟩ := hits j (List.mem_cons_of_mem i hj)
      exact ⟨hj, hskips⟩
    obtain ⟨left, hleft, hrest⟩ := resume_items frames hlater hi.after hmiddle
    obtain ⟨rounds, rfl⟩ : ∃ n, rounds = n + 1 := ⟨rounds - 1, by omega⟩
    refine ⟨left, hleft, ?_⟩
    have hopen := closeFrames_open frames .list ((skipSpace_spacing hspace _).trans hfirst)
      hc.bracket
    -- the look for a closing bracket has dropped the white space in front of the item already
    have hskip : skipSpace (ascii c :: (Utf8.encode cs ++ (Utf8.encode i.after ++
        (Utf8.encode (itemsText false its) ++ rest)))) =
        skipSpace (Utf8.encode (i.textWith (itemsText false its)) ++ rest) := by
      rw [hfirst, skipSpace_leads hc]
    rw [← hrest, ← hitem, ← skipValues_congr hskip]
    exact resume_of_ok hopen

/-- The name of a member is passed over with its colon. -/
theorem skipName_member {m : Member} (hm : m.Proper) {space : List Char} (hspace : IsSpacing space)
    (tail : List Char) (rest : List UInt8) :
    skipName (Utf8.encode space ++ ascii '"' :: (Utf8.encode (m.openTextWith tail) ++ rest)) =
      .ok (Utf8.encode (m.item.textWith tail) ++ rest) := by
  have hquote : ∀ bs, skipSpace (ascii '"' :: bs) = ascii '"' :: bs := fun _ => rfl
  have hskip : skipString ((Utf8.encode (m.openTextWith tail) ++ rest).length + 1)
      (Utf8.encode (m.openTextWith tail) ++ rest) =
      .ok (Utf8.encode m.between ++ ascii ':' :: (Utf8.encode (m.item.textWith tail) ++ rest)) := by
    rw [encode_member]
    refine skipString_closed hm.name ?_
    rw [List.length_append]
    omega
  rw [skipName, skipSpace_spacing hspace, hquote]
  dsimp only
  rw [if_pos rfl, hskip]
  exact colon_spacing hm.between _

/-- A member inside a brace that goes on with what is left of the object. -/
theorem goOn_member (frames : List Frame) (rounds : Nat) {m : Member} (hm : m.Proper)
    (hskips : Skips m.item.value) {space : List Char} (hspace : IsSpacing space) (ms : List Member)
    (hrounds : (Utf8.encode (m.openTextWith (membersText false ms)) ++ rest).length < rounds) :
    ∃ left, (Utf8.encode (membersText false ms) ++ rest).length < left ∧
      goOn rounds (.object :: frames) (Utf8.encode space ++
        ascii '"' :: (Utf8.encode (m.openTextWith (membersText false ms)) ++ rest)) =
        resume true left (.object :: frames)
          (Utf8.encode m.item.after ++ (Utf8.encode (membersText false ms) ++ rest)) := by
  rw [encode_member, List.length_append, List.length_append, List.length_cons] at hrounds
  obtain ⟨left, hleft, hitem⟩ := skipValues_item (.object :: frames) rounds hm.item hskips
    (ends_members hm.item ms rest) (by omega)
  refine ⟨left, hleft, ?_⟩
  rw [← hitem, goOn, skipName_member hm hspace]
  rfl

/-- What is left of the members of an object, behind one of them. -/
theorem resume_members (frames : List Frame) {ms : List Member}
    (hms : ∀ m ∈ ms, m.Proper ∧ Skips m.item.value) {space : List Char} (hspace : IsSpacing space)
    (hrounds : (Utf8.encode (membersText false ms) ++ rest).length < rounds) :
    ∃ left, rest.length < left ∧
      resume true rounds (.object :: frames)
        (Utf8.encode space ++ (Utf8.encode (membersText false ms) ++ rest)) =
        resume true left frames rest := by
  induction ms generalizing space rounds with
  | nil =>
    exact ⟨rounds, Nat.lt_of_succ_lt hrounds,
      resume_congr (closeFrames_close true .object hspace rest)⟩
  | cons m ms ih =>
    obtain ⟨hm, hskips⟩ := hms m List.mem_cons_self
    have hcomma : Utf8.encode (membersText false (m :: ms)) ++ rest = ascii ',' ::
        (Utf8.encode m.before ++
          ascii '"' :: (Utf8.encode (m.openTextWith (membersText false ms)) ++ rest)) := by
      show Utf8.encode (',' :: (m.before ++ '"' :: m.openTextWith (membersText false ms))) ++
        rest = _
      rw [encode_mark (by decide), Utf8.encode_append, encode_mark (by decide), List.cons_append,
        List.append_assoc, List.cons_append]
    rw [hcomma, List.length_cons, List.length_append, List.length_cons] at hrounds
    obtain ⟨middle, hmiddle, hmember⟩ := goOn_member frames rounds hm hskips hm.before ms
      (by omega : (_ ++ rest).length < rounds)
    obtain ⟨left, hleft, hrest⟩ :=
      ih (fun k hk => hms k (List.mem_cons_of_mem m hk)) hm.item.after hmiddle
    refine ⟨left, hleft, ?_⟩
    rw [hcomma, ← hrest, ← hmember]
    exact resume_of_ok (closeFrames_comma .object hspace _)

theorem skips_object {space : List Char} (hspace : IsSpacing space) {ms : List Member}
    (hms : ∀ m ∈ ms, m.Proper ∧ Skips m.item.value) :
    Skips ('\x7b' :: (space ++ membersText true ms)) := by
  intro rounds frames rest _ hrounds
  have hbytes : Utf8.encode ('\x7b' :: (space ++ membersText true ms)) ++ rest =
      ascii '\x7b' :: (Utf8.encode space ++ (Utf8.encode (membersText true ms) ++ rest)) := by
    rw [encode_mark (by decide), Utf8.encode_append, List.cons_append, List.append_assoc]
  rw [hbytes, List.length_cons, List.length_append] at hrounds
  obtain ⟨rounds, rfl⟩ : ∃ n, rounds = n + 1 := ⟨rounds - 1, by omega⟩
  rw [hbytes, skipValues_of_opened (opening_bracket .object _)]
  cases ms with
  | nil =>
    have hclose : (Utf8.encode (membersText true []) ++ rest).length = rest.length + 1 := rfl
    exact ⟨rounds, by omega, resume_congr (closeFrames_close false .object hspace rest)⟩
  | cons m ms =>
    obtain ⟨hm, hskips⟩ := hms m List.mem_cons_self
    have hmember : Utf8.encode (membersText true (m :: ms)) ++ rest = Utf8.encode m.before ++
        ascii '"' :: (Utf8.encode (m.openTextWith (membersText false ms)) ++ rest) := by
      show Utf8.encode (m.before ++ '"' :: m.openTextWith (membersText false ms)) ++ rest = _
      rw [Utf8.encode_append, encode_mark (by decide), List.append_assoc, List.cons_append]
    have hquote : ∀ bs, skipSpace (ascii '"' :: bs) = ascii '"' :: bs := fun _ => rfl
    rw [hmember, List.length_append, List.length_cons] at hrounds
    obtain ⟨middle, hmiddle, hgo⟩ := goOn_member frames rounds hm hskips
      (List.forall_mem_nil _ : IsSpacing []) ms (by omega : (_ ++ rest).length < rounds)
    obtain ⟨left, hleft, hrest⟩ := resume_members frames
      (fun k hk => hms k (List.mem_cons_of_mem m hk)) hm.item.after hmiddle
    refine ⟨left, hleft, ?_⟩
    -- here too the white space is gone, so the first name stands without any
    have hopen := closeFrames_open frames .object
      (((skipSpace_spacing hspace _).trans (skipSpace_spacing hm.before _)).trans (hquote
        (Utf8.encode (m.openTextWith (membersText false ms)) ++ rest))) (by decide)
    rw [hmember, ← hrest, ← hgo]
    exact resume_of_ok hopen

/-! ## Values -/

/-- A value of the grammar is passed over inside any brackets. -/
theorem skipValues_written {d : Nat} {cs : List Char} (h : Written d cs) : Skips cs := by
  induction h with
  | null => exact skips_null
  | true => exact skips_true
  | false => exact skips_false
  | number h => exact skips_number h
  | string h => exact skips_string h
  | array hspace hitems h ih =>
    exact skips_array hspace fun i hi => ⟨hitems i hi, written_leads (h i hi), ih i hi⟩
  | object hspace hmembers h ih => exact skips_object hspace fun m hm => ⟨hmembers m hm, ih m hm⟩

/-- A value alone is passed over, whatever it denotes and however deep it nests. -/
theorem skipValue_item {d : Nat} {i : Item} (hi : i.Spaced) (hvalue : Written d i.value)
    {tail : List Char} (hends : Ends (Utf8.encode i.after ++ (Utf8.encode tail ++ rest))) :
    skipValue (Utf8.encode (i.textWith tail) ++ rest) =
      .ok (Utf8.encode i.after ++ (Utf8.encode tail ++ rest)) := by
  obtain ⟨left, -, hskip⟩ := skipValues_item [] _ hi (skipValues_written hvalue) hends
    (Nat.lt_succ_self _)
  rw [skipValue, hskip]
  rfl

end TableFeed.Json.Read
