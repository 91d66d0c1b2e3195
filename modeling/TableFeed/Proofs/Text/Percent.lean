import Mathlib.Logic.Function.Basic
import TableFeed.Proofs.Json.Number
import TableFeed.Proofs.Text.Utf8
import TableFeed.Text.Percent

/-!
# Escaped text is read back

Each byte of a text is escaped by itself: it stands for itself or becomes `%` with two hexadecimal digits,
and `%` never stands for itself. So the escapes are taken back byte by byte, and no mark of a URL is left.

* **`Escaped`** — the texts of unreserved characters and escapes.
* **`escaped_encode`** — what is encoded is such a text, whatever it was.
* **`decodeBytes_piece`** — the crux: a byte that was escaped is read back, whatever follows it.
* **`decodeBytes_encode`**, **`encode_injective`** — so a text is read back, and no two are encoded alike.
-/

namespace TableFeed.Percent

open Json.Read (ascii)

/-! ## The texts that encoding makes -/

/-- An unreserved character. -/
def IsPlain (c : Char) : Prop :=
  c.isAlphanum = true ∨ c ∈ ['-', '_', '.', '~']

/-- A digit of an escape. -/
def IsHex (c : Char) : Prop :=
  c ∈ "0123456789ABCDEF".toList

instance : DecidablePred IsPlain := fun _ => inferInstanceAs (Decidable (_ ∨ _))

instance : DecidablePred IsHex := fun c => inferInstanceAs (Decidable (c ∈ "0123456789ABCDEF".toList))

/-- A text of unreserved characters and escapes. -/
inductive Escaped : List Char → Prop
  | nil : Escaped []
  | plain {c : Char} {cs : List Char} (hc : IsPlain c) (h : Escaped cs) : Escaped (c :: cs)
  | escape {high low : Char} {cs : List Char} (hhigh : IsHex high) (hlow : IsHex low)
    (h : Escaped cs) : Escaped ('%' :: high :: low :: cs)

theorem IsHex.isPlain {c : Char} (h : IsHex c) : IsPlain c := by
  have hall : ("0123456789ABCDEF".toList.all fun c => decide (IsPlain c)) = true := by decide
  exact of_decide_eq_true (List.all_eq_true.mp hall c h)

/-- There are no other characters in such a text. -/
theorem Escaped.chars {cs : List Char} (h : Escaped cs) : ∀ c ∈ cs, c = '%' ∨ IsPlain c := by
  induction h with
  | nil => exact List.forall_mem_nil _
  | plain hc h ih => exact List.forall_mem_cons.mpr ⟨.inr hc, ih⟩
  | escape hhigh hlow h ih =>
    refine List.forall_mem_cons.mpr ⟨.inl rfl, ?_⟩
    exact List.forall_mem_cons.mpr ⟨.inr hhigh.isPlain,
      List.forall_mem_cons.mpr ⟨.inr hlow.isPlain, ih⟩⟩

/-- A mark that is neither unreserved nor begins an escape is in no such text. -/
theorem Escaped.ne_mark {cs : List Char} (h : Escaped cs) {mark : Char}
    (hmark : mark ≠ '%' ∧ ¬ IsPlain mark) : ∀ c ∈ cs, c ≠ mark := by
  rintro c hc rfl
  rcases h.chars c hc with hpercent | hplain
  · exact hmark.1 hpercent
  · exact hmark.2 hplain

/-! ## One byte -/

/-- What a byte is written as. -/
def piece (b : UInt8) : List Char :=
  if isUnreserved b then [Char.ofNat b.toNat] else escape b

theorem encode_toList (s : String) : (encode s).toList = (Utf8.bytes s).flatMap piece :=
  String.toList_ofList

/-- The capital digit of a number below 16 is one of an escape, and it is read as the number. -/
theorem upper_hexDigit : ∀ n, n < 16 → IsHex (Digits.hexDigit n).toUpper ∧
    (Digits.hexDigit n).toUpper.toNat < 128 ∧
    Digits.hexValue? (Digits.hexDigit n).toUpper = some n := by
  decide

theorem isPlain_of_unreserved {b : UInt8} (h : isUnreserved b = true) :
    b.toNat < 128 ∧ IsPlain (Char.ofNat b.toNat) := by
  unfold isUnreserved at h
  obtain ⟨hlow, hchar⟩ := Bool.and_eq_true_iff.mp h
  refine ⟨UInt8.lt_iff_toNat_lt.mp (of_decide_eq_true hlow), ?_⟩
  unfold IsPlain
  simpa [or_assoc] using hchar

theorem escaped_piece (b : UInt8) {cs : List Char} (h : Escaped cs) : Escaped (piece b ++ cs) := by
  have hb : b.toNat < 256 := b.toNat_lt_size
  unfold piece
  by_cases hfree : isUnreserved b = true
  · rw [if_pos hfree]
    exact .plain (isPlain_of_unreserved hfree).2 h
  · rw [if_neg hfree]
    exact .escape (upper_hexDigit _ (by omega)).1 (upper_hexDigit _ (by omega)).1 h

theorem decodeBytes_cons {a : UInt8} (ha : a ≠ 0x25) (rest : List UInt8) :
    decodeBytes (a :: rest) = a :: decodeBytes rest := by
  match rest with
  | [] => rfl
  | [_] => rfl
  | _ :: _ :: _ => rw [decodeBytes, if_neg ha]

theorem decodeBytes_escape {high low : Char} {h l : ℕ} (hhigh : high.toNat < 128)
    (hlow : low.toNat < 128) (hh : Digits.hexValue? high = some h) (hl : Digits.hexValue? low = some l)
    (rest : List UInt8) :
    decodeBytes (ascii '%' :: ascii high :: ascii low :: rest) =
      (h * 16 + l).toUInt8 :: decodeBytes rest := by
  have hread : ∀ {c : Char}, c.toNat < 128 → hexValue? (ascii c) = Digits.hexValue? c := by
    intro c hc
    rw [hexValue?, Json.Read.toNat_ascii hc, Char.ofNat_toNat]
  rw [decodeBytes, if_pos (by decide), hread hhigh, hread hlow, hh, hl]

/-- A byte that was written is read back, whatever follows it. -/
theorem decodeBytes_piece (b : UInt8) (rest : List UInt8) :
    decodeBytes (Utf8.encode (piece b) ++ rest) = b :: decodeBytes rest := by
  have hb : b.toNat < 256 := b.toNat_lt_size
  unfold piece
  by_cases hfree : isUnreserved b = true
  · -- the byte is the one character that it stands for
    have hlow := (isPlain_of_unreserved hfree).1
    obtain ⟨hchar, hbyte⟩ := Json.Read.ascii_ofNat hlow
    have hne : b ≠ 0x25 := by
      rintro rfl
      exact absurd hfree (by decide)
    rw [if_pos hfree, Utf8.encode_cons, Json.Read.encodeChar_ascii (by omega), hbyte]
    exact decodeBytes_cons hne rest
  · obtain ⟨-, hhigh, hhighValue⟩ := upper_hexDigit (b.toNat / 16) (by omega)
    obtain ⟨-, hlow, hlowValue⟩ := upper_hexDigit (b.toNat % 16) (by omega)
    have hsum : (b.toNat / 16 * 16 + b.toNat % 16).toUInt8 = b := by
      rw [Nat.div_add_mod']
      exact UInt8.ofNat_toNat
    have hbytes : Utf8.encode (escape b) = [ascii '%', ascii (Digits.hexDigit (b.toNat / 16)).toUpper,
        ascii (Digits.hexDigit (b.toNat % 16)).toUpper] := by
      refine Json.Read.encode_ascii ?_
      simp only [escape, Digits.hexByte, List.map_cons, List.map_nil, List.forall_mem_cons]
      exact ⟨by decide, hhigh, hlow, List.forall_mem_nil _⟩
    rw [if_neg hfree, hbytes]
    exact (decodeBytes_escape hhigh hlow hhighValue hlowValue rest).trans (by rw [hsum])

/-! ## Whole texts -/

theorem escaped_pieces (bs : List UInt8) : Escaped (bs.flatMap piece) := by
  induction bs with
  | nil => exact .nil
  | cons b bs ih => exact escaped_piece b ih

theorem decodeBytes_pieces (bs : List UInt8) :
    decodeBytes (Utf8.encode (bs.flatMap piece)) = bs := by
  induction bs with
  | nil => rfl
  | cons b bs ih => rw [List.flatMap_cons, Utf8.encode_append, decodeBytes_piece, ih]

/-- What is encoded is made of unreserved characters and escapes. -/
theorem escaped_encode (s : String) : Escaped (encode s).toList := by
  rw [encode_toList]
  exact escaped_pieces _

/-- The bytes of a text are read back from its encoding. -/
theorem decodeBytes_encode (s : String) : decodeBytes (Utf8.bytes (encode s)) = Utf8.bytes s := by
  rw [Utf8.bytes, encode_toList, decodeBytes_pieces]

/-- No two texts are encoded alike. -/
theorem encode_injective : Function.Injective encode := by
  intro s t h
  have hbytes : Utf8.bytes s = Utf8.bytes t := by
    rw [← decodeBytes_encode s, h, decodeBytes_encode]
  have hread := Utf8.decode?_bytes s
  rw [hbytes, Utf8.decode?_bytes] at hread
  exact (Option.some.inj hread).symm

theorem encode_ne_nil {s : String} (h : s ≠ "") : (encode s).toList ≠ [] := by
  have hempty : encode "" = "" := by decide
  intro hnil
  refine h (encode_injective ?_)
  rw [hempty, ← String.toList_inj, hnil]
  rfl

end TableFeed.Percent
