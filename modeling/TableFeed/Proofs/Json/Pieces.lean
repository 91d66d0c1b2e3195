import TableFeed.Proofs.Json.NumberText

/-!
# Strings of the grammar

A string of the grammar may escape half a character, and then it denotes no text. Whether it is read,
and as what, depends on the string alone.

* **`stringBytes_closed`** — the crux, by recursion over the pieces: two escapes may stand for one
  character.
* **`string_settles`** — so a string has one outcome.
* **`skipString_closed`** — a string is passed over, whatever it denotes.
-/

namespace TableFeed.Json.Read

variable {rest : List UInt8}

/-! ## Escapes -/

theorem hexValue?_ascii {c : Char} (h : (Digits.hexValue? c).isSome = true) : c.toNat < 128 := by
  unfold Digits.hexValue? at h
  split at h
  · rename_i hdigit
    have hrange := toNat_digit hdigit
    omega
  · split at h
    · rename_i hlower
      have hle : c.toNat ≤ 'f'.toNat := hlower.2
      exact Nat.lt_of_le_of_lt hle (by decide)
    · split at h
      · rename_i hupper
        have hle : c.toNat ≤ 'F'.toNat := hupper.2
        exact Nat.lt_of_le_of_lt hle (by decide)
      · cases h

theorem hexEscape_digits {a b c d : Char} (h : (Piece.unicode a b c d).Proper) :
    ∃ n, ∀ bs, hexEscape (ascii a :: ascii b :: ascii c :: ascii d :: bs) = .ok (n, bs) := by
  have hdigit : ∀ x ∈ [a, b, c, d],
      ∃ n, Digits.hexValue? (Char.ofNat (ascii x).toNat) = some n := by
    intro x hx
    rw [toNat_ascii (hexValue?_ascii (h x hx)), Char.ofNat_toNat]
    exact Option.isSome_iff_exists.mp (h x hx)
  obtain ⟨i, hi⟩ := hdigit a (by simp)
  obtain ⟨j, hj⟩ := hdigit b (by simp)
  obtain ⟨k, hk⟩ := hdigit c (by simp)
  obtain ⟨l, hl⟩ := hdigit d (by simp)
  refine ⟨((i * 16 + j) * 16 + k) * 16 + l, fun bs => ?_⟩
  have hhex : hex4? (ascii a) (ascii b) (ascii c) (ascii d) =
      some (((i * 16 + j) * 16 + k) * 16 + l) := by
    simp only [hex4?, hi, hj, hk, hl, bind, Option.bind]
  rw [hexEscape, hhex]

/-- The second half of a character, behind the escape of its first half. -/
def secondHalf (n : Nat) : List UInt8 → Option (List UInt8 × List UInt8)
  | slash :: u :: bs =>
    if slash = ascii '\\' ∧ u = ascii 'u' then
      (hexEscape bs).toOption.bind fun (m, rest) =>
        if m < 0xDC00 ∨ 0xDFFF < m then none
        else some (charBytes ((n - 0xD800) * 0x400 + (m - 0xDC00) + 0x10000), rest)
    else none
  | _ => none

/-- What the number of an escape stands for, with what follows it left: a character, or the first half
of one that a second half follows. A second half alone is a fault. -/
def escaped (n : Nat) (bs : List UInt8) : Option (List UInt8 × List UInt8) :=
  if 0xDC00 ≤ n ∧ n ≤ 0xDFFF then none
  else if n < 0xD800 ∨ 0xDBFF < n then some (charBytes n, bs)
  else secondHalf n bs

theorem unicodeEscape_toOption {bs bs' : List UInt8} {n : Nat} (h : hexEscape bs = .ok (n, bs')) :
    (unicodeEscape bs).toOption = escaped n bs' := by
  unfold unicodeEscape escaped
  rw [h]
  simp only [bind, Except.bind]
  split
  · rfl
  · split
    · rfl
    · -- a first half: a backslash, the letter and four digits of a second half have to follow
      cases bs' with
      | nil => rfl
      | cons slash bs' =>
        dsimp only
        by_cases hslash : slash = ascii '\\'
        · rw [if_neg (not_not.mpr hslash)]
          cases bs' with
          | nil => rfl
          | cons u bs' =>
            dsimp only
            by_cases hu : u = ascii 'u'
            · rw [if_neg (not_not.mpr hu), secondHalf, if_pos ⟨hslash, hu⟩]
              cases hexEscape bs' with
              | error e => rfl
              | ok found =>
                show Except.toOption (if _ then _ else _) = if _ then _ else _
                split <;> rfl
            · rw [if_pos hu, secondHalf, if_neg fun h => hu h.2]
              rfl
        · rw [if_pos hslash]
          cases bs' with
          | nil => rfl
          | cons u bs' =>
            rw [secondHalf, if_neg fun h => hslash h.1]
            rfl

/-! ## Rounds of the reader -/

theorem stringBytes_unicode (rounds : Nat) (read bs : List UInt8) :
    (stringBytes (rounds + 1) read (ascii '\\' :: ascii 'u' :: bs)).toOption =
      (unicodeEscape bs).toOption.bind fun (c, rest) =>
        (stringBytes rounds (c.reverse ++ read) rest).toOption := by
  have hquote : ¬ ascii '\\' = ascii '"' := by decide
  rw [stringBytes, if_neg hquote, if_pos rfl, escapeSequence, if_pos rfl, toOption_bind]

/-- The reader of strings has one outcome behind an opening quote: the bytes of a text, or none. -/
def SettlesBytes (pieces : List Piece) (content : Option (List UInt8)) : Prop :=
  ∀ (rounds : Nat) (read rest : List UInt8), (Utf8.encode (closedText pieces)).length ≤ rounds →
    (stringBytes rounds read (Utf8.encode (closedText pieces) ++ rest)).toOption =
      content.map fun c => (read.reverse ++ c, rest)

/-- The same where a step has taken bytes off what is left of a string. -/
def SettlesBehind (step : List UInt8 → Option (List UInt8 × List UInt8)) (pieces : List Piece)
    (content : Option (List UInt8)) : Prop :=
  ∀ (rounds : Nat) (read rest : List UInt8), (Utf8.encode (closedText pieces)).length ≤ rounds →
    ((step (Utf8.encode (closedText pieces) ++ rest)).bind fun (c, rest) =>
      (stringBytes rounds (c.reverse ++ read) rest).toOption) =
        content.map fun c => (read.reverse ++ c, rest)

theorem closedText_cons (p : Piece) (ps : List Piece) :
    closedText (p :: ps) = p.text ++ closedText ps := by
  unfold closedText
  rw [List.flatMap_cons, List.append_assoc]

theorem encode_plain (c : Char) : Utf8.encode (Piece.plain c).text = String.utf8EncodeChar c :=
  (Utf8.encode_cons c []).trans (List.append_nil _)

theorem encode_unicode {a b c d : Char} (h : (Piece.unicode a b c d).Proper) :
    Utf8.encode (Piece.unicode a b c d).text =
      ascii '\\' :: ascii 'u' :: ascii a :: ascii b :: ascii c :: ascii d :: [] := by
  refine encode_ascii fun x hx => ?_
  rcases List.mem_cons.mp hx with rfl | hx
  · decide
  · rcases List.mem_cons.mp hx with rfl | hx
    · decide
    · exact hexValue?_ascii (h x hx)

theorem letter_cases {letter : Char} (h : letter ∈ Piece.letters) :
    letter.toNat < 128 ∧ ascii letter ≠ ascii 'u' ∧
      ∃ b, simpleEscape? (ascii letter) = some b := by
  have hall : (Piece.letters.all fun l => decide (l.toNat < 128 ∧ ascii l ≠ ascii 'u' ∧
      (simpleEscape? (ascii l)).isSome = true)) = true := by decide
  obtain ⟨hascii, hu, hsome⟩ := of_decide_eq_true (List.all_eq_true.mp hall letter h)
  exact ⟨hascii, hu, Option.isSome_iff_exists.mp hsome⟩

theorem encode_letter {letter : Char} (h : letter ∈ Piece.letters) :
    Utf8.encode (Piece.escape letter).text = [ascii '\\', ascii letter] := by
  refine encode_ascii fun x hx => ?_
  rcases List.mem_cons.mp hx with rfl | hx
  · decide
  · rw [List.mem_singleton.mp hx]
    exact (letter_cases h).1

theorem settlesBytes_nil : SettlesBytes [] (some []) := by
  intro rounds read rest hrounds
  obtain ⟨rounds, rfl⟩ : ∃ n, rounds = n + 1 := ⟨rounds - 1, by
    have : (Utf8.encode (closedText [])).length = 1 := rfl
    omega⟩
  show (stringBytes (rounds + 1) read (ascii '"' :: rest)).toOption = _
  rw [stringBytes, if_pos rfl]
  exact congrArg (fun c => some (c, rest)) (List.append_nil _).symm

/-- Bytes in front of those that are read behind them. -/
theorem settlesBytes_append {ps : List Piece} {content : Option (List UInt8)}
    (hps : SettlesBytes ps content) (front : List UInt8) {rounds : Nat} (read rest : List UInt8)
    (hrounds : (Utf8.encode (closedText ps)).length ≤ rounds) :
    (stringBytes rounds (front.reverse ++ read) (Utf8.encode (closedText ps) ++ rest)).toOption =
      (content.map (front ++ ·)).map fun c => (read.reverse ++ c, rest) := by
  rw [hps _ _ _ hrounds]
  cases content with
  | none => rfl
  | some c =>
    simp only [Option.map_some, List.reverse_append, List.reverse_reverse, List.append_assoc]

/-- A piece whose bytes are taken in so many rounds goes in front of the others. -/
theorem settlesBytes_cons (taken : Nat) {p : Piece} {ps : List Piece} {front : List UInt8}
    (htaken : taken ≤ (Utf8.encode p.text).length)
    (hfront : ∀ rounds read rest, stringBytes (rounds + taken) read (Utf8.encode p.text ++ rest) =
      stringBytes rounds (front.reverse ++ read) rest)
    {content : Option (List UInt8)} (h : SettlesBytes ps content) :
    SettlesBytes (p :: ps) (content.map (front ++ ·)) := by
  intro rounds read rest hrounds
  rw [closedText_cons, Utf8.encode_append, List.length_append] at hrounds
  obtain ⟨rounds, rfl⟩ : ∃ n, rounds = n + taken := ⟨rounds - taken, by omega⟩
  rw [closedText_cons, Utf8.encode_append, List.append_assoc, hfront]
  exact settlesBytes_append h front read rest (by omega)

theorem settlesBytes_plain {c : Char} (h : (Piece.plain c).Proper) {ps : List Piece}
    {content : Option (List UInt8)} (hps : SettlesBytes ps content) :
    SettlesBytes (.plain c :: ps) (content.map (String.utf8EncodeChar c ++ ·)) := by
  refine settlesBytes_cons _ (Nat.le_of_eq (congrArg List.length (encode_plain c).symm)) ?_ hps
  intro rounds read rest
  rw [encode_plain]
  exact stringBytes_plain rounds read rest (plain_of_mem_encodeChar h.1 h.2.1 h.2.2)

theorem settlesBytes_escape {letter : Char} (h : letter ∈ Piece.letters) {ps : List Piece}
    {content : Option (List UInt8)} (hps : SettlesBytes ps content) :
    ∃ content', SettlesBytes (.escape letter :: ps) content' := by
  obtain ⟨-, hu, b, hb⟩ := letter_cases h
  refine ⟨content.map ([b] ++ ·), settlesBytes_cons 1 ?_ ?_ hps⟩
  · rw [encode_letter h]
    exact Nat.le_succ 1
  · intro rounds read rest
    rw [encode_letter h]
    exact stringBytes_simple rounds read rest hu hb

theorem secondHalf_ne {n : Nat} {b : UInt8} (h : b ≠ ascii '\\') (bs : List UInt8) :
    secondHalf n (b :: bs) = none := by
  cases bs with
  | nil => rfl
  | cons u bs => exact if_neg fun hboth => h hboth.1

/-- The first half of a character needs the escape of a second half behind it. -/
theorem secondHalf_fails (n : Nat) {ps : List Piece} (hps : ∀ p ∈ ps, p.Proper)
    (h : ∀ a b c d ps', ps ≠ .unicode a b c d :: ps') (rest : List UInt8) :
    secondHalf n (Utf8.encode (closedText ps) ++ rest) = none := by
  cases ps with
  | nil => exact secondHalf_ne (by decide) rest
  | cons p ps =>
    have hp := hps p List.mem_cons_self
    rw [closedText_cons, Utf8.encode_append, List.append_assoc]
    cases p with
    | plain c =>
      -- no byte of a character that stands for itself is a backslash
      have hplain := plain_of_mem_encodeChar hp.1 hp.2.1 hp.2.2
      obtain ⟨b, bs, hbytes⟩ := List.exists_cons_of_ne_nil (String.utf8EncodeChar_ne_nil (c := c))
      rw [encode_plain, hbytes]
      exact secondHalf_ne (hplain b (hbytes ▸ List.mem_cons_self)).2.1 _
    | escape letter =>
      -- there is a backslash, but another letter behind it
      rw [encode_letter hp]
      exact if_neg fun hboth => (letter_cases hp).2.1 hboth.2
    | unicode a b c d => exact absurd rfl (h a b c d ps)

/-- An escape of four digits, by what is behind it. -/
theorem settlesBytes_unicode {a b c d : Char} (h : (Piece.unicode a b c d).Proper) {n : Nat}
    (hn : ∀ bs, hexEscape (ascii a :: ascii b :: ascii c :: ascii d :: bs) = .ok (n, bs))
    {ps : List Piece} {content : Option (List UInt8)} (hps : SettlesBehind (escaped n) ps content) :
    SettlesBytes (.unicode a b c d :: ps) content := by
  intro rounds read rest hrounds
  rw [closedText_cons, Utf8.encode_append, encode_unicode h, List.length_append] at hrounds
  obtain ⟨rounds, rfl⟩ : ∃ k, rounds = k + 1 := ⟨rounds - 1, by
    rw [List.length_cons] at hrounds
    omega⟩
  rw [closedText_cons, Utf8.encode_append, encode_unicode h]
  show (stringBytes (rounds + 1) read (ascii '\\' :: ascii 'u' ::
    ascii a :: ascii b :: ascii c :: ascii d :: (Utf8.encode (closedText ps) ++ rest))).toOption = _
  rw [stringBytes_unicode, unicodeEscape_toOption (hn _)]
  refine hps rounds read rest ?_
  simp only [List.length_cons] at hrounds
  omega

/-- The first half of a character takes the escape behind it as the second half. -/
theorem settlesBytes_halves {a b c d : Char} (h : (Piece.unicode a b c d).Proper) (n : Nat)
    {ps : List Piece} {content : Option (List UInt8)} (hps : SettlesBytes ps content) :
    ∃ content', SettlesBehind (secondHalf n) (.unicode a b c d :: ps) content' := by
  obtain ⟨m, hm⟩ := hexEscape_digits h
  have hbytes : ∀ rest, secondHalf n (Utf8.encode (closedText (.unicode a b c d :: ps)) ++ rest) =
      if m < 0xDC00 ∨ 0xDFFF < m then none
      else some (charBytes ((n - 0xD800) * 0x400 + (m - 0xDC00) + 0x10000),
        Utf8.encode (closedText ps) ++ rest) := by
    intro rest
    rw [closedText_cons, Utf8.encode_append, encode_unicode h]
    show secondHalf n (ascii '\\' :: ascii 'u' ::
      ascii a :: ascii b :: ascii c :: ascii d :: (Utf8.encode (closedText ps) ++ rest)) = _
    rw [secondHalf, if_pos ⟨rfl, rfl⟩, hm]
    rfl
  by_cases hm : m < 0xDC00 ∨ 0xDFFF < m
  · refine ⟨none, fun rounds read rest _ => ?_⟩
    rw [hbytes, if_pos hm]
    rfl
  · refine ⟨content.map (charBytes ((n - 0xD800) * 0x400 + (m - 0xDC00) + 0x10000) ++ ·),
      fun rounds read rest hrounds => ?_⟩
    rw [hbytes, if_neg hm]
    refine settlesBytes_append hps _ read rest ?_
    rw [closedText_cons, Utf8.encode_append, List.length_append] at hrounds
    omega

theorem stringBytes_closed : ∀ pieces : List Piece, (∀ p ∈ pieces, p.Proper) →
    ∃ content, SettlesBytes pieces content
  | [], _ => ⟨some [], settlesBytes_nil⟩
  | .plain c :: ps, h => by
    obtain ⟨content, hps⟩ := stringBytes_closed ps fun p hp => h p (List.mem_cons_of_mem _ hp)
    exact ⟨_, settlesBytes_plain (h _ List.mem_cons_self) hps⟩
  | .escape letter :: ps, h => by
    obtain ⟨content, hps⟩ := stringBytes_closed ps fun p hp => h p (List.mem_cons_of_mem _ hp)
    exact settlesBytes_escape (h _ List.mem_cons_self) hps
  | .unicode a b c d :: ps, h => by
    have hproper := h _ List.mem_cons_self
    have hrest := fun p hp => h p (List.mem_cons_of_mem _ hp)
    obtain ⟨n, hn⟩ := hexEscape_digits hproper
    obtain ⟨content, hps⟩ := stringBytes_closed ps hrest
    by_cases htrailing : 0xDC00 ≤ n ∧ n ≤ 0xDFFF
    · refine ⟨none, settlesBytes_unicode hproper hn fun rounds read rest _ => ?_⟩
      rw [escaped, if_pos htrailing]
      rfl
    by_cases hwhole : n < 0xD800 ∨ 0xDBFF < n
    · refine ⟨content.map (charBytes n ++ ·), settlesBytes_unicode hproper hn
        fun rounds read rest hrounds => ?_⟩
      rw [escaped, if_neg htrailing, if_pos hwhole]
      exact settlesBytes_append hps _ read rest hrounds
    have hescaped : escaped n = secondHalf n :=
      funext fun bs => (if_neg htrailing).trans (if_neg hwhole)
    -- a first half takes the piece behind it along, so the recursion goes on behind both
    by_cases hsecond : ∃ a b c d ps', ps = .unicode a b c d :: ps'
    · obtain ⟨a', b', c', d', ps', rfl⟩ := hsecond
      obtain ⟨content', hps'⟩ :=
        stringBytes_closed ps' fun p hp => hrest p (List.mem_cons_of_mem _ hp)
      obtain ⟨content'', hhalves⟩ := settlesBytes_halves (hrest _ List.mem_cons_self) n hps'
      exact ⟨content'', settlesBytes_unicode hproper hn (hescaped ▸ hhalves)⟩
    · refine ⟨none, settlesBytes_unicode hproper hn fun rounds read rest _ => ?_⟩
      have hfails := secondHalf_fails n hrest
        (fun a b c d ps' heq => hsecond ⟨a, b, c, d, ps', heq⟩) rest
      rw [hescaped, hfails]
      rfl
  termination_by pieces => pieces.length

/-- A string has one outcome: a text, or none. -/
theorem string_settles {pieces : List Piece} (h : ∀ p ∈ pieces, p.Proper) :
    ∃ text : Option String, ∀ rest,
      (string (Utf8.encode (closedText pieces) ++ rest)).toOption = text.map (·, rest) := by
  obtain ⟨content, hcontent⟩ := stringBytes_closed pieces h
  refine ⟨content.bind Utf8.decode?, fun rest => ?_⟩
  unfold string
  rw [toOption_bind, hcontent _ [] rest (by
    rw [List.length_append]
    omega)]
  cases content with
  | none => rfl
  | some c =>
    simp only [Option.map_some, Option.bind_some, List.reverse_nil, List.nil_append]
    cases Utf8.decode? c <;> rfl

/-! ## Passing over strings -/

/-- A piece is passed over in no more rounds than it has bytes. -/
theorem skipString_piece {p : Piece} (h : p.Proper) :
    ∃ taken, taken ≤ (Utf8.encode p.text).length ∧ ∀ rounds rest,
      skipString (rounds + taken) (Utf8.encode p.text ++ rest) = skipString rounds rest := by
  have hslash : ¬ ascii '\\' = ascii '"' := by decide
  cases p with
  | plain c =>
    -- a character beyond ASCII takes a round for each of its bytes
    have hplain : ∀ (bs : List UInt8), (∀ b ∈ bs, Plain b) → ∀ rounds rest,
        skipString (rounds + bs.length) (bs ++ rest) = skipString rounds rest := by
      intro bs hbs rounds rest
      induction bs with
      | nil => rfl
      | cons b bs ih =>
        obtain ⟨hquote, hslash, hlow⟩ := hbs b List.mem_cons_self
        rw [List.length_cons, ← Nat.add_assoc, List.cons_append, skipString.eq_def]
        dsimp only
        rw [if_neg hquote, if_neg hslash, if_neg hlow,
          ih fun d hd => hbs d (List.mem_cons_of_mem b hd)]
    refine ⟨_, Nat.le_refl _, ?_⟩
    rw [encode_plain]
    exact hplain _ (plain_of_mem_encodeChar h.1 h.2.1 h.2.2)
  | escape letter =>
    obtain ⟨-, hu, b, hb⟩ := letter_cases h
    rw [encode_letter h]
    refine ⟨1, Nat.le_succ 1, fun rounds rest => ?_⟩
    show skipString (rounds + 1) (ascii '\\' :: ascii letter :: rest) = _
    rw [skipString, if_neg hslash, if_pos rfl]
    dsimp only
    rw [if_neg hu, hb]
    rfl
  | unicode a b c d =>
    obtain ⟨n, hn⟩ := hexEscape_digits h
    rw [encode_unicode h]
    refine ⟨1, Nat.succ_le_succ (Nat.zero_le _), fun rounds rest => ?_⟩
    show skipString (rounds + 1) (ascii '\\' :: ascii 'u' ::
      ascii a :: ascii b :: ascii c :: ascii d :: rest) = _
    rw [skipString, if_neg hslash, if_pos rfl]
    dsimp only
    rw [if_pos rfl, hn]
    rfl

/-- A string is passed over, whatever it denotes. -/
theorem skipString_closed {pieces : List Piece} (h : ∀ p ∈ pieces, p.Proper) {rounds : Nat}
    (hrounds : (Utf8.encode (closedText pieces)).length ≤ rounds) :
    skipString rounds (Utf8.encode (closedText pieces) ++ rest) = .ok rest := by
  induction pieces generalizing rounds with
  | nil =>
    obtain ⟨rounds, rfl⟩ : ∃ n, rounds = n + 1 := ⟨rounds - 1, by
      have : (Utf8.encode (closedText [])).length = 1 := rfl
      omega⟩
    exact if_pos rfl
  | cons p ps ih =>
    obtain ⟨taken, htaken, hskip⟩ := skipString_piece (h p List.mem_cons_self)
    rw [closedText_cons, Utf8.encode_append, List.length_append] at hrounds
    obtain ⟨rounds, rfl⟩ : ∃ n, rounds = n + taken := ⟨rounds - taken, by omega⟩
    rw [closedText_cons, Utf8.encode_append, List.append_assoc, hskip]
    exact ih (fun q hq => h q (List.mem_cons_of_mem p hq)) (by omega)

end TableFeed.Json.Read
