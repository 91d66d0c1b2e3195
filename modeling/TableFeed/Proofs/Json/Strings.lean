import TableFeed.Proofs.Json.Number

/-!
# Strings are read as they were written

A string escapes some of its characters and writes the others as their bytes. The reader of strings
collects bytes, one round for each that it takes as it stands.

* **`stringBytes_escape`** — the crux: what one character was written as is read as its bytes,
  in as many rounds as it has bytes.
* **`string_quoted`** — a quoted text is read as that text, whatever its characters and whatever
  follows.
-/

namespace TableFeed.Json.Read

/-! ## The bytes of one character -/

/-- Characters beyond ASCII have no byte of an ASCII character in them. -/
theorem le_of_mem_encodeChar {c : Char} (h : 128 ≤ c.toNat) :
    ∀ b ∈ String.utf8EncodeChar c, 128 ≤ b.toNat := by
  have hnat : c.val.toNat = c.toNat := rfl
  have htail : ∀ n : Nat, 128 ≤ (UInt8.ofNat (n % 64 + 128)).toNat := by
    intro n
    rw [Utf8.toNat_ofNat (by omega)]
    omega
  unfold String.utf8EncodeChar
  simp only [hnat]
  rw [if_neg (by omega)]
  generalize c.toNat = v
  intro b hb
  split at hb
  · rcases List.mem_cons.mp hb with rfl | hb
    · rw [Utf8.toNat_ofNat (by omega)]
      omega
    · rw [List.mem_singleton.mp hb]
      exact htail v
  · split at hb
    · rcases List.mem_cons.mp hb with rfl | hb
      · rw [Utf8.toNat_ofNat (by omega)]
        omega
      · simp only [List.mem_cons, List.not_mem_nil, or_false] at hb
        rcases hb with rfl | rfl
        · exact htail _
        · exact htail v
    · rcases List.mem_cons.mp hb with rfl | hb
      · rw [Utf8.toNat_ofNat (by omega)]
        omega
      · simp only [List.mem_cons, List.not_mem_nil, or_false] at hb
        rcases hb with rfl | rfl | rfl
        · exact htail _
        · exact htail _
        · exact htail v

/-- A byte that stands for itself inside a string. -/
def Plain (b : UInt8) : Prop :=
  ¬ b = ascii '"' ∧ ¬ b = ascii '\\' ∧ ¬ b < 0x20

theorem plain_of_mem_encodeChar {c : Char} (hquote : c ≠ '"') (hslash : c ≠ '\\')
    (hlow : ¬ c.toNat < 0x20) : ∀ b ∈ String.utf8EncodeChar c, Plain b := by
  have hplain : ∀ b : UInt8, b.toNat ≠ 34 → b.toNat ≠ 92 → 32 ≤ b.toNat → Plain b := by
    intro b h34 h92 h32
    refine ⟨fun h => h34 (congrArg UInt8.toNat h), fun h => h92 (congrArg UInt8.toNat h), ?_⟩
    rw [UInt8.lt_iff_toNat_lt]
    exact Nat.not_lt.mpr h32
  intro b hb
  by_cases hascii : c.toNat < 128
  · rw [encodeChar_ascii hascii, List.mem_singleton] at hb
    rw [hb]
    refine hplain _ ?_ ?_ ?_
    · rw [toNat_ascii hascii]
      exact fun h => hquote (Char.toNat_inj.mp h)
    · rw [toNat_ascii hascii]
      exact fun h => hslash (Char.toNat_inj.mp h)
    · rw [toNat_ascii hascii]
      exact Nat.not_lt.mp hlow
  · have hle := le_of_mem_encodeChar (Nat.not_lt.mp hascii) b hb
    exact hplain b (by omega) (by omega) (by omega)

/-! ## Rounds of the reader -/

variable (rounds : Nat) (read rest : List UInt8)

/-- Bytes that stand for themselves take a round each. -/
theorem stringBytes_plain {bs : List UInt8} (h : ∀ b ∈ bs, Plain b) :
    stringBytes (rounds + bs.length) read (bs ++ rest) =
      stringBytes rounds (bs.reverse ++ read) rest := by
  induction bs generalizing read with
  | nil => rfl
  | cons b bs ih =>
    obtain ⟨hquote, hslash, hlow⟩ := h b List.mem_cons_self
    rw [List.length_cons, ← Nat.add_assoc, List.cons_append, stringBytes, if_neg hquote,
      if_neg hslash, if_neg hlow, ih _ fun d hd => h d (List.mem_cons_of_mem b hd),
      List.reverse_cons, List.append_assoc]
    rfl

/-- An escape of one letter takes one round. -/
theorem stringBytes_simple {letter : Char} {b : UInt8} (hletter : ascii letter ≠ ascii 'u')
    (h : simpleEscape? (ascii letter) = some b) :
    stringBytes (rounds + 1) read (ascii '\\' :: ascii letter :: rest) =
      stringBytes rounds (b :: read) rest := by
  have hquote : ¬ ascii '\\' = ascii '"' := by decide
  rw [stringBytes, if_neg hquote, if_pos rfl, escapeSequence, if_neg hletter, h]
  rfl

/-- The two hexadecimal digits of a control character. -/
theorem hex4?_control : ∀ n, n < 32 →
    hex4? (ascii '0') (ascii '0') (ascii (Digits.hexDigit (n / 16)))
      (ascii (Digits.hexDigit (n % 16))) = some n := by
  decide

/-- An escape of four hexadecimal digits takes one round. -/
theorem stringBytes_control {c : Char} (hlow : c.toNat < 0x20) :
    stringBytes (rounds + 1) read (ascii '\\' :: ascii 'u' :: ascii '0' :: ascii '0' ::
      ascii (Digits.hexDigit (c.toNat / 16)) :: ascii (Digits.hexDigit (c.toNat % 16)) :: rest) =
      stringBytes rounds (ascii c :: read) rest := by
  have hquote : ¬ ascii '\\' = ascii '"' := by decide
  have hchar : charBytes c.toNat = [ascii c] := by
    unfold charBytes
    rw [Char.ofNat_toNat, encodeChar_ascii (by omega)]
  have hunicode : unicodeEscape (ascii '0' :: ascii '0' ::
      ascii (Digits.hexDigit (c.toNat / 16)) :: ascii (Digits.hexDigit (c.toNat % 16)) :: rest) =
      .ok ([ascii c], rest) := by
    simp only [unicodeEscape, hexEscape, hex4?_control c.toNat hlow, bind, Except.bind]
    rw [if_neg (by omega), if_pos (by omega), hchar]
  rw [stringBytes, if_neg hquote, if_pos rfl, escapeSequence, if_pos rfl, hunicode]
  rfl

/-- A character is written as one letter behind a backslash, as four hexadecimal digits, or as
itself. -/
theorem escape_cases (c : Char) :
    (∃ letter, escape c = ['\\', letter] ∧ c.toNat < 128 ∧ letter.toNat < 128 ∧
      ascii letter ≠ ascii 'u' ∧ simpleEscape? (ascii letter) = some (ascii c)) ∨
    (c.toNat < 0x20 ∧ escape c = ['\\', 'u', '0', '0', Digits.hexDigit (c.toNat / 16),
      Digits.hexDigit (c.toNat % 16)]) ∨
    (c ≠ '"' ∧ c ≠ '\\' ∧ ¬ c.toNat < 0x20 ∧ escape c = [c]) := by
  unfold escape
  by_cases hquote : c = '"'
  · subst hquote
    exact Or.inl ⟨_, rfl, by decide, by decide, by decide, by decide⟩
  by_cases hslash : c = '\\'
  · subst hslash
    exact Or.inl ⟨_, rfl, by decide, by decide, by decide, by decide⟩
  rw [if_neg hquote, if_neg hslash]
  iterate 5
    split
    · rename_i h
      subst h
      exact Or.inl ⟨_, rfl, by decide, by decide, by decide, by decide⟩
  split
  · rename_i hlow
    exact Or.inr (Or.inl ⟨hlow, rfl⟩)
  · rename_i hlow
    exact Or.inr (Or.inr ⟨hquote, hslash, hlow, rfl⟩)

/-- The two hexadecimal digits of a control character are ASCII. -/
theorem hexDigit_ascii : ∀ n, n < 16 → (Digits.hexDigit n).toNat < 128 := by
  decide

/-- What a character was written as is read as its bytes, in as many rounds as it has bytes. -/
theorem stringBytes_escape (c : Char) :
    stringBytes (rounds + (String.utf8EncodeChar c).length) read
        (Utf8.encode (escape c) ++ rest) =
      stringBytes rounds ((String.utf8EncodeChar c).reverse ++ read) rest := by
  rcases escape_cases c with ⟨letter, heq, hc, hletter, hu, hsimple⟩ | ⟨hlow, heq⟩ |
    ⟨hquote, hslash, hlow, heq⟩
  · have hencode : Utf8.encode ['\\', letter] = [ascii '\\', ascii letter] := by
      refine encode_ascii ?_
      simp [hletter]
    rw [heq, hencode, encodeChar_ascii hc]
    exact stringBytes_simple rounds read rest hu hsimple
  · have hfirst := hexDigit_ascii (c.toNat / 16) (by omega)
    have hlast := hexDigit_ascii (c.toNat % 16) (by omega)
    rw [heq, encode_ascii (by simp [hfirst, hlast]), encodeChar_ascii (by omega)]
    exact stringBytes_control rounds read rest hlow
  · have hencode : Utf8.encode [c] = String.utf8EncodeChar c := by
      rw [Utf8.encode_cons]
      exact List.append_nil _
    rw [heq, hencode]
    exact stringBytes_plain rounds read rest (plain_of_mem_encodeChar hquote hslash hlow)

/-! ## Strings -/

/-- A text up to its closing quote. -/
theorem stringBytes_quoted (cs : List Char) (more : Nat) :
    stringBytes (more + 1 + (Utf8.encode cs).length) read
        (Utf8.encode (cs.flatMap escape) ++ ascii '"' :: rest) =
      .ok (read.reverse ++ Utf8.encode cs, rest) := by
  induction cs generalizing read with
  | nil =>
    show stringBytes (more + 1) read (ascii '"' :: rest) = _
    rw [stringBytes, if_pos rfl]
    exact congrArg (fun bs => Except.ok (bs, rest)) (List.append_nil _).symm
  | cons c cs ih =>
    have hrounds : more + 1 + (Utf8.encode (c :: cs)).length =
        more + 1 + (Utf8.encode cs).length + (String.utf8EncodeChar c).length := by
      rw [Utf8.encode_cons, List.length_append]
      omega
    rw [hrounds, List.flatMap_cons, Utf8.encode_append, List.append_assoc, stringBytes_escape, ih,
      List.reverse_append, List.reverse_reverse, List.append_assoc, Utf8.encode_cons]

/-- Escapes are no shorter than what they stand for. -/
theorem length_escaped (cs : List Char) :
    (Utf8.encode cs).length ≤ (Utf8.encode (cs.flatMap escape)).length := by
  induction cs with
  | nil => exact Nat.le_refl _
  | cons c cs ih =>
    have hc : (String.utf8EncodeChar c).length ≤ (Utf8.encode (escape c)).length := by
      rcases escape_cases c with ⟨letter, heq, hc, -⟩ | ⟨hlow, heq⟩ | ⟨-, -, -, heq⟩
      · rw [heq, encodeChar_ascii hc, Utf8.encode_cons, List.length_append,
          encodeChar_ascii (by decide)]
        exact Nat.le_add_right 1 _
      · rw [heq, encodeChar_ascii (by omega), Utf8.encode_cons, List.length_append,
          encodeChar_ascii (by decide)]
        exact Nat.le_add_right 1 _
      · rw [heq, Utf8.encode_cons, List.length_append]
        exact Nat.le_add_right _ _
    rw [List.flatMap_cons, Utf8.encode_append, Utf8.encode_cons, List.length_append,
      List.length_append]
    omega

/-- A quoted text behind its opening quote is read as that text, whatever follows. -/
theorem string_quoted (s : String) :
    string (Utf8.encode (s.toList.flatMap escape) ++ ascii '"' :: rest) = .ok (s, rest) := by
  have hlength := length_escaped s.toList
  obtain ⟨more, hrounds⟩ : ∃ more,
      (Utf8.encode (s.toList.flatMap escape) ++ ascii '"' :: rest).length + 1 =
        more + 1 + (Utf8.encode s.toList).length := by
    refine ⟨(Utf8.encode (s.toList.flatMap escape) ++ ascii '"' :: rest).length -
      (Utf8.encode s.toList).length, ?_⟩
    rw [List.length_append]
    omega
  unfold string
  rw [hrounds, stringBytes_quoted]
  simp only [bind, Except.bind, List.reverse_nil, List.nil_append]
  rw [← Utf8.bytes, Utf8.decode?_bytes]

end TableFeed.Json.Read
