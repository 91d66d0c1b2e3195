import Mathlib.Data.Char
import TableFeed.Text.Utf8

/-!
# Text survives UTF-8

Encoding a text and reading the bytes gives the text back, whatever its characters.

* **`chunks_one`** to **`chunks_four`** — which bytes are read as one character, by its length.
* **`chunks_encodeChar`** — the crux: the bytes of one character in front of any others are read as
  that character. The second byte decides about overlong forms and surrogates, which no character
  has.
* **`decode?_bytes`** — what follows for whole texts.
-/

namespace TableFeed.Utf8

/-! ## Bytes that are one character -/

theorem chunks_one {a : UInt8} (rest : List UInt8) (ha : a.toNat < 0x80) :
    chunks (a :: rest) = .char (Char.ofNat a.toNat) :: chunks rest := by
  have hlt : a < 0x80 := UInt8.lt_iff_toNat_lt.mpr ha
  rw [chunks.eq_def]
  simp only [hlt, if_true]

/-- A byte from `0x80` is no character by itself. -/
theorem not_lt_of_toNat {a : UInt8} (ha : 0x80 ≤ a.toNat) : ¬ a < 0x80 := by
  rw [UInt8.lt_iff_toNat_lt]
  exact Nat.not_lt.mpr ha

theorem between_iff {a low high : UInt8} :
    (decide (low ≤ a) && decide (a ≤ high)) = true ↔
      low.toNat ≤ a.toNat ∧ a.toNat ≤ high.toNat := by
  simp only [Bool.and_eq_true, decide_eq_true_eq, UInt8.le_iff_toNat_le]

theorem chunks_two {a b : UInt8} (rest : List UInt8) (ha : 0xC2 ≤ a.toNat) (ha' : a.toNat ≤ 0xDF)
    (hb : isTail b = true) : chunks (a :: b :: rest) =
      .char (Char.ofNat (a.toNat % 32 * 64 + tailBits b)) :: chunks rest := by
  have hone := not_lt_of_toNat (a := a) (by omega)
  have htwo : (0xC2 ≤ a && a ≤ 0xDF) = true := between_iff.mpr ⟨ha, ha'⟩
  rw [chunks.eq_def]
  simp only [hone, htwo, hb, if_true, if_false]

theorem chunks_three {a b c : UInt8} (rest : List UInt8) (ha : 0xE0 ≤ a.toNat)
    (ha' : a.toNat ≤ 0xEF) (hb : opensThree a b = true) (hc : isTail c = true) :
    chunks (a :: b :: c :: rest) =
      .char (Char.ofNat ((a.toNat % 16 * 64 + tailBits b) * 64 + tailBits c)) :: chunks rest := by
  have hone := not_lt_of_toNat (a := a) (by omega)
  have htwo : ¬ (0xC2 ≤ a && a ≤ 0xDF) = true := by
    rw [between_iff]
    show ¬ (194 ≤ a.toNat ∧ a.toNat ≤ 223)
    omega
  have hthree : (0xE0 ≤ a && a ≤ 0xEF) = true := between_iff.mpr ⟨ha, ha'⟩
  rw [chunks.eq_def]
  simp only [hone, htwo, hthree, hb, hc, if_true, if_false, Bool.false_eq_true]

theorem chunks_four {a b c d : UInt8} (rest : List UInt8) (ha : 0xF0 ≤ a.toNat)
    (ha' : a.toNat ≤ 0xF4) (hb : opensFour a b = true) (hc : isTail c = true)
    (hd : isTail d = true) :
    chunks (a :: b :: c :: d :: rest) =
      .char (Char.ofNat
        (((a.toNat % 8 * 64 + tailBits b) * 64 + tailBits c) * 64 + tailBits d)) ::
        chunks rest := by
  have hone := not_lt_of_toNat (a := a) (by omega)
  have htwo : ¬ (0xC2 ≤ a && a ≤ 0xDF) = true := by
    rw [between_iff]
    show ¬ (194 ≤ a.toNat ∧ a.toNat ≤ 223)
    omega
  have hthree : ¬ (0xE0 ≤ a && a ≤ 0xEF) = true := by
    rw [between_iff]
    show ¬ (224 ≤ a.toNat ∧ a.toNat ≤ 239)
    omega
  have hfour : (0xF0 ≤ a && a ≤ 0xF4) = true := between_iff.mpr ⟨ha, ha'⟩
  rw [chunks.eq_def]
  simp only [hone, htwo, hthree, hfour, hb, hc, hd, if_true, if_false, Bool.false_eq_true]

/-! ## The bytes of a character -/

theorem toNat_ofNat {n : Nat} (h : n < 256) : (UInt8.ofNat n).toNat = n := by
  rw [UInt8.toNat_ofNat']
  exact Nat.mod_eq_of_lt h

/-- The tail byte of six bits. -/
theorem isTail_ofNat (n : Nat) : isTail (UInt8.ofNat (n % 64 + 128)) = true := by
  refine between_iff.mpr ?_
  rw [toNat_ofNat (by omega)]
  show 128 ≤ n % 64 + 128 ∧ n % 64 + 128 ≤ 191
  omega

theorem tailBits_ofNat (n : Nat) : tailBits (UInt8.ofNat (n % 64 + 128)) = n % 64 := by
  unfold tailBits
  rw [toNat_ofNat (by omega)]
  omega

theorem beq_of_toNat {a b : UInt8} : (a == b) = decide (a.toNat = b.toNat) := by
  by_cases h : a = b
  · simp [h]
  · have hne : a.toNat ≠ b.toNat := fun heq => h (UInt8.toNat_inj.mp heq)
    simp [h, hne]

/-- Behind `0xE0` and `0xED` only part of the tails may follow. -/
theorem opensThree_ofNat {v : Nat} (hlow : 2047 < v) (hhigh : v ≤ 65535)
    (hvalid : v < 0xD800 ∨ 0xDFFF < v) :
    opensThree (UInt8.ofNat (v / 4096 % 16 + 224)) (UInt8.ofNat (v / 64 % 64 + 128)) = true := by
  have hfirst : (UInt8.ofNat (v / 4096 % 16 + 224)).toNat = v / 4096 % 16 + 224 :=
    toNat_ofNat (by omega)
  have hsecond : (UInt8.ofNat (v / 64 % 64 + 128)).toNat = v / 64 % 64 + 128 :=
    toNat_ofNat (by omega)
  unfold opensThree
  simp only [beq_of_toNat, hfirst]
  split
  · rename_i h
    have hzero : v / 4096 % 16 + 224 = 224 := of_decide_eq_true h
    refine between_iff.mpr ?_
    rw [hsecond]
    show 160 ≤ v / 64 % 64 + 128 ∧ v / 64 % 64 + 128 ≤ 191
    omega
  · split
    · rename_i h
      have hsurrogate : v / 4096 % 16 + 224 = 237 := of_decide_eq_true h
      refine between_iff.mpr ?_
      rw [hsecond]
      show 128 ≤ v / 64 % 64 + 128 ∧ v / 64 % 64 + 128 ≤ 159
      omega
    · exact isTail_ofNat _

/-- So it is behind `0xF0` and `0xF4`. -/
theorem opensFour_ofNat {v : Nat} (hlow : 65535 < v) (hvalid : v < 0x110000) :
    opensFour (UInt8.ofNat (v / 262144 % 8 + 240)) (UInt8.ofNat (v / 4096 % 64 + 128)) =
      true := by
  have hfirst : (UInt8.ofNat (v / 262144 % 8 + 240)).toNat = v / 262144 % 8 + 240 :=
    toNat_ofNat (by omega)
  have hsecond : (UInt8.ofNat (v / 4096 % 64 + 128)).toNat = v / 4096 % 64 + 128 :=
    toNat_ofNat (by omega)
  unfold opensFour
  simp only [beq_of_toNat, hfirst]
  split
  · rename_i h
    have hzero : v / 262144 % 8 + 240 = 240 := of_decide_eq_true h
    refine between_iff.mpr ?_
    rw [hsecond]
    show 144 ≤ v / 4096 % 64 + 128 ∧ v / 4096 % 64 + 128 ≤ 191
    omega
  · split
    · rename_i h
      have hlast : v / 262144 % 8 + 240 = 244 := of_decide_eq_true h
      refine between_iff.mpr ?_
      rw [hsecond]
      show 128 ≤ v / 4096 % 64 + 128 ∧ v / 4096 % 64 + 128 ≤ 143
      omega
    · exact isTail_ofNat _

/-- The bytes of a character are read as that character, whatever follows. -/
theorem chunks_encodeChar (c : Char) (rest : List UInt8) :
    chunks (String.utf8EncodeChar c ++ rest) = .char c :: chunks rest := by
  have hvalid : c.toNat < 0xD800 ∨ 0xDFFF < c.toNat ∧ c.toNat < 0x110000 := c.valid
  have hnat : c.val.toNat = c.toNat := rfl
  have hback : Char.ofNat c.toNat = c := Char.ofNat_toNat c
  unfold String.utf8EncodeChar
  simp only [hnat]
  generalize c.toNat = v at hvalid hback ⊢
  by_cases h1 : v ≤ 127
  · have hfirst : (UInt8.ofNat v).toNat = v := toNat_ofNat (by omega)
    rw [if_pos h1]
    refine (chunks_one rest (by omega)).trans ?_
    rw [hfirst, hback]
  by_cases h2 : v ≤ 2047
  · have hfirst : (UInt8.ofNat (v / 64 % 32 + 192)).toNat = v / 64 % 32 + 192 :=
      toNat_ofNat (by omega)
    rw [if_neg h1, if_pos h2]
    refine (chunks_two rest (by omega) (by omega) (isTail_ofNat v)).trans ?_
    have hsum : (v / 64 % 32 + 192) % 32 * 64 + v % 64 = v := by omega
    rw [hfirst, tailBits_ofNat, hsum, hback]
  by_cases h3 : v ≤ 65535
  · have hfirst : (UInt8.ofNat (v / 4096 % 16 + 224)).toNat = v / 4096 % 16 + 224 :=
      toNat_ofNat (by omega)
    have hopens := opensThree_ofNat (v := v) (by omega) h3 (by omega)
    rw [if_neg h1, if_neg h2, if_pos h3]
    refine (chunks_three rest (by omega) (by omega) hopens (isTail_ofNat v)).trans ?_
    have hsum : ((v / 4096 % 16 + 224) % 16 * 64 + v / 64 % 64) * 64 + v % 64 = v := by omega
    rw [hfirst, tailBits_ofNat, tailBits_ofNat, hsum, hback]
  · have hfirst : (UInt8.ofNat (v / 262144 % 8 + 240)).toNat = v / 262144 % 8 + 240 :=
      toNat_ofNat (by omega)
    have hopens := opensFour_ofNat (v := v) (by omega) (by omega)
    rw [if_neg h1, if_neg h2, if_neg h3]
    refine (chunks_four rest (by omega) (by omega) hopens (isTail_ofNat _)
      (isTail_ofNat v)).trans ?_
    have hsum : (((v / 262144 % 8 + 240) % 8 * 64 + v / 4096 % 64) * 64 + v / 64 % 64) * 64 +
        v % 64 = v := by omega
    rw [hfirst, tailBits_ofNat, tailBits_ofNat, tailBits_ofNat, hsum, hback]

/-! ## Whole texts -/

theorem encode_append (cs ds : List Char) : encode (cs ++ ds) = encode cs ++ encode ds :=
  List.flatMap_append

theorem encode_cons (c : Char) (cs : List Char) :
    encode (c :: cs) = String.utf8EncodeChar c ++ encode cs :=
  List.flatMap_cons

/-- The bytes of a text are read as its characters. -/
theorem chunks_encode (cs : List Char) : chunks (encode cs) = cs.map .char := by
  induction cs with
  | nil => rw [encode, List.flatMap_nil, chunks.eq_def, List.map_nil]
  | cons c cs ih => rw [encode_cons, chunks_encodeChar, ih, List.map_cons]

theorem ofChunks_chars (cs : List Char) (index : Nat) :
    ofChunks (cs.map .char) index = .ok cs := by
  induction cs generalizing index with
  | nil => rfl
  | cons c cs ih =>
    rw [List.map_cons, ofChunks, ih]
    rfl

/-- The bytes of a text are that text. -/
theorem decode?_encode (cs : List Char) : decode? (encode cs) = some (String.ofList cs) := by
  unfold decode? decode
  rw [chunks_encode, ofChunks_chars]
  rfl

theorem decode?_bytes (s : String) : decode? (bytes s) = some s := by
  rw [bytes, decode?_encode, String.ofList_toList]

end TableFeed.Utf8
