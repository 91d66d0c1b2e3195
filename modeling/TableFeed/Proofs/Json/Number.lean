import TableFeed.Json.Parser
import TableFeed.Proofs.Json.Line
import TableFeed.Proofs.Number.Layout
import TableFeed.Proofs.Text.Utf8

/-!
# Numbers are read to their end

A number is read from the bytes of a text in which something follows it. What is read depends on
the number alone, as long as what follows cannot be part of one (`Ends`).

* **`appendDigits_eq`**, **`exponentDigits_eq`** — runs of digits are read as what they denote.
* **`number_layout`** — the crux: a layout is read as its significand, scaled by its power of ten.
* **`number_digits`** — digits alone are read as a whole number.
-/

namespace TableFeed.Json.Read

open Shortest (Layout)
open Shortest.Layout (powerText fractionText written)

/-! ## Bytes of ASCII text -/

theorem encodeChar_ascii {c : Char} (h : c.toNat < 128) : String.utf8EncodeChar c = [ascii c] := by
  have hnat : c.val.toNat = c.toNat := rfl
  unfold String.utf8EncodeChar ascii
  simp only [hnat]
  rw [if_pos (by omega)]

theorem encode_ascii {cs : List Char} (h : ∀ c ∈ cs, c.toNat < 128) :
    Utf8.encode cs = cs.map ascii := by
  induction cs with
  | nil => rfl
  | cons c cs ih =>
    rw [Utf8.encode_cons, encodeChar_ascii (h c List.mem_cons_self),
      ih fun d hd => h d (List.mem_cons_of_mem c hd)]
    rfl

theorem toNat_ascii {c : Char} (h : c.toNat < 128) : (ascii c).toNat = c.toNat :=
  Utf8.toNat_ofNat (by omega)

/-- Different ASCII characters have different bytes. -/
theorem ascii_inj {c d : Char} (hc : c.toNat < 128) (hd : d.toNat < 128) :
    ascii c = ascii d ↔ c = d := by
  constructor
  · intro h
    have hnat : c.toNat = d.toNat := by rw [← toNat_ascii hc, ← toNat_ascii hd, h]
    exact Char.toNat_inj.mp hnat
  · exact congrArg ascii

/-- A byte below 128 is that of the character with its number. -/
theorem ascii_ofNat {b : UInt8} (h : b.toNat < 128) :
    (Char.ofNat b.toNat).toNat = b.toNat ∧ ascii (Char.ofNat b.toNat) = b := by
  have hnat : (Char.ofNat b.toNat).toNat = b.toNat := by
    unfold Char.ofNat
    rw [dif_pos (.inl (by omega))]
    rfl
  refine ⟨hnat, ?_⟩
  rw [ascii, hnat]
  exact UInt8.ofNat_toNat

/-! ## Runs of digits -/

variable {ds : List Char} {rest : List UInt8}

theorem toNat_digit {c : Char} (h : c.isDigit = true) : 48 ≤ c.toNat ∧ c.toNat ≤ 57 :=
  Char.isDigit_iff_toNat.mp h

theorem isDigit_ascii {c : Char} (h : c.isDigit = true) : isDigit (ascii c) = true := by
  have hrange := toNat_digit h
  refine Utf8.between_iff.mpr ?_
  rw [toNat_ascii (by omega)]
  exact hrange

theorem digitValue_ascii {c : Char} (h : c.isDigit = true) :
    digitValue (ascii c) = c.toNat - '0'.toNat := by
  have hrange := toNat_digit h
  unfold digitValue
  rw [toNat_ascii (by omega)]
  rfl

/-- No digit comes first. -/
def NoDigit (bs : List UInt8) : Prop :=
  ∀ b ∈ bs.head?, isDigit b = false

theorem takeWhile_digits (hds : ∀ c ∈ ds, c.isDigit = true) (hrest : NoDigit rest) :
    (ds.map ascii ++ rest).takeWhile isDigit = ds.map ascii := by
  induction ds with
  | nil =>
    cases rest with
    | nil => rfl
    | cons b bs =>
      have hb : ¬ isDigit b = true := by simp [hrest b rfl]
      exact List.takeWhile_cons_of_neg hb
  | cons d ds ih =>
    rw [List.map_cons, List.cons_append,
      List.takeWhile_cons_of_pos (isDigit_ascii (hds d List.mem_cons_self)),
      ih fun c hc => hds c (List.mem_cons_of_mem d hc)]

theorem dropWhile_digits (hds : ∀ c ∈ ds, c.isDigit = true) (hrest : NoDigit rest) :
    (ds.map ascii ++ rest).dropWhile isDigit = rest := by
  have hsplit := List.takeWhile_append_dropWhile (p := isDigit) (l := ds.map ascii ++ rest)
  rw [takeWhile_digits hds hrest] at hsplit
  exact List.append_cancel_left hsplit

theorem ofDigitChars_step (d : Char) (ds : List Char) (n : Nat) :
    Nat.ofDigitChars 10 (d :: ds) n = Nat.ofDigitChars 10 ds (10 * n + (d.toNat - '0'.toNat)) :=
  Nat.ofDigitChars_cons

theorem le_ofDigitChars (ds : List Char) (n : Nat) : n ≤ Nat.ofDigitChars 10 ds n := by
  induction ds generalizing n with
  | nil => exact Nat.le_refl n
  | cons d ds ih =>
    rw [ofDigitChars_step]
    have h := ih (10 * n + (d.toNat - '0'.toNat))
    omega

/-- Digits that stay within the significand are all taken. -/
theorem appendDigits_eq (hds : ∀ c ∈ ds, c.isDigit = true) {n : Nat}
    (hmax : Nat.ofDigitChars 10 ds n ≤ maxSignificand) :
    appendDigits n (ds.map ascii) = (Nat.ofDigitChars 10 ds n, ds.length, 0) := by
  induction ds generalizing n with
  | nil => rfl
  | cons d ds ih =>
    rw [ofDigitChars_step] at hmax ⊢
    have hnext := Nat.le_trans (le_ofDigitChars ds _) hmax
    rw [List.map_cons, appendDigits, digitValue_ascii (hds d List.mem_cons_self)]
    dsimp only
    rw [if_pos hnext, ih (fun c hc => hds c (List.mem_cons_of_mem d hc)) hmax]
    rfl

/-- The digits of an exponent that is no larger than exponents may be. -/
theorem exponentDigits_eq (hds : ∀ c ∈ ds, c.isDigit = true) (hrest : NoDigit rest) {n : Nat}
    (hmax : Nat.ofDigitChars 10 ds n < Nat.pow 2 31) :
    exponentDigits n (ds.map ascii ++ rest) = (some (Nat.ofDigitChars 10 ds n), rest) := by
  induction ds generalizing n with
  | nil =>
    cases rest with
    | nil => rfl
    | cons b bs =>
      show exponentDigits n (b :: bs) = _
      rw [exponentDigits, if_neg (by simp [hrest b rfl])]
      rfl
  | cons d ds ih =>
    rw [ofDigitChars_step] at hmax ⊢
    have hnext := Nat.lt_of_le_of_lt (le_ofDigitChars ds _) hmax
    rw [List.map_cons, List.cons_append, exponentDigits,
      if_pos (isDigit_ascii (hds d List.mem_cons_self)), digitValue_ascii (hds d List.mem_cons_self)]
    dsimp only
    rw [if_pos hnext]
    exact ih (fun c hc => hds c (List.mem_cons_of_mem d hc)) hmax

/-! ## Layouts -/

/-- What follows cannot be part of a number. -/
def Ends (bs : List UInt8) : Prop :=
  ∀ b ∈ bs.head?, isDigit b = false ∧ b ≠ ascii '.' ∧ b ≠ ascii 'e' ∧ b ≠ ascii 'E'

theorem Ends.noDigit (h : Ends rest) : NoDigit rest :=
  fun b hb => (h b hb).1

variable {negative : Bool} {n : Nat} {p : Int}

/-- A power of ten behind its `e`. -/
theorem exponentPart_eq {below : Bool} (hne : ds ≠ []) (hds : ∀ c ∈ ds, c.isDigit = true)
    (hrest : NoDigit rest) (hmax : p.natAbs + Nat.ofDigitChars 10 ds 0 < Nat.pow 2 31) :
    exponentPart negative n p (ascii (if below then '-' else '+') :: (ds.map ascii ++ rest)) =
      scaled negative n (p + written (some (below, ds))) rest := by
  obtain ⟨d, ds, rfl⟩ := List.exists_cons_of_ne_nil hne
  have hd := hds d List.mem_cons_self
  have hdigits : exponentDigits (digitValue (ascii d)) (ds.map ascii ++ rest) =
      (some (Nat.ofDigitChars 10 (d :: ds) 0), rest) := by
    rw [ofDigitChars_step] at hmax ⊢
    rw [digitValue_ascii hd]
    refine (exponentDigits_eq (fun c hc => hds c (List.mem_cons_of_mem d hc)) hrest ?_).trans ?_
    · simp only [Nat.mul_zero, Nat.zero_add] at hmax
      omega
    · simp only [Nat.mul_zero, Nat.zero_add]
  simp only [Nat.pow_eq] at hmax
  unfold exponentPart
  cases below with
  | true =>
    have hplus : ¬ ascii '-' = ascii '+' := by decide
    simp only [if_true, if_neg hplus, List.map_cons, List.cons_append, isDigit_ascii hd, hdigits]
    show scaled negative n (max (-maxPower - 1) _) rest = scaled negative n (p + -_) rest
    congr 1
    simp only [maxPower, Nat.pow_eq]
    omega
  | false =>
    simp only [Bool.false_eq_true, if_false, if_true, List.map_cons, List.cons_append,
      isDigit_ascii hd, hdigits]
    show scaled negative n (min maxPower (p + (Nat.ofDigitChars 10 (d :: ds) 0 : Nat))) rest =
      scaled negative n (p + (Nat.ofDigitChars 10 (d :: ds) 0 : Nat)) rest
    congr 1
    simp only [maxPower, Nat.pow_eq]
    omega

theorem natAbs_written (below : Bool) (ds : List Char) :
    (written (some (below, ds))).natAbs = Nat.ofDigitChars 10 ds 0 := by
  cases below
  · exact Int.natAbs_natCast _
  · exact (Int.natAbs_neg _).trans (Int.natAbs_natCast _)

/-- A power of ten, or none, behind the digits of a number with a point. -/
theorem afterDigits_eq {power : Option (Bool × List Char)}
    (hpower : ∀ below ds, power = some (below, ds) → ds ≠ [] ∧ ∀ c ∈ ds, c.isDigit = true)
    (hrest : Ends rest) (hmax : p.natAbs + (written power).natAbs < Nat.pow 2 31) :
    afterDigits negative n p ((powerText power).map ascii ++ rest) =
      scaled negative n (p + written power) rest := by
  cases power with
  | none =>
    show afterDigits negative n p rest = scaled negative n (p + 0) rest
    rw [Int.add_zero]
    cases rest with
    | nil => rfl
    | cons b bs =>
      obtain ⟨-, -, he, hE⟩ := hrest b rfl
      have hno : ¬ (b = ascii 'e' ∨ b = ascii 'E') := fun h => h.elim he hE
      rw [afterDigits]
      exact if_neg hno
  | some power =>
    obtain ⟨below, ds⟩ := power
    obtain ⟨hne, hds⟩ := hpower below ds rfl
    show afterDigits negative n p
      (ascii 'e' :: ascii (if below then '-' else '+') :: (ds.map ascii ++ rest)) = _
    rw [afterDigits, if_pos (Or.inl rfl)]
    refine exponentPart_eq hne hds hrest.noDigit ?_
    rwa [natAbs_written] at hmax

theorem powerText_noDigit (power : Option (Bool × List Char)) (hrest : Ends rest) :
    NoDigit ((powerText power).map ascii ++ rest) := by
  cases power with
  | none => exact hrest.noDigit
  | some power =>
    intro b hb
    obtain rfl := Option.some.inj hb
    decide

/-- The digits behind the point, and what follows them. -/
theorem fractionPart_eq {power : Option (Bool × List Char)} (hne : ds ≠ [])
    (hds : ∀ c ∈ ds, c.isDigit = true)
    (hpower : ∀ below ds, power = some (below, ds) → ds ≠ [] ∧ ∀ c ∈ ds, c.isDigit = true)
    (hrest : Ends rest) (hmax : Nat.ofDigitChars 10 ds n ≤ maxSignificand)
    (hsmall : ds.length + (written power).natAbs < Nat.pow 2 31) :
    fractionPart negative n 0 (ds.map ascii ++ ((powerText power).map ascii ++ rest)) =
      scaled negative (Nat.ofDigitChars 10 ds n) (written power - ds.length) rest := by
  have hstop := powerText_noDigit power hrest
  unfold fractionPart
  dsimp only
  rw [takeWhile_digits hds hstop, dropWhile_digits hds hstop, appendDigits_eq hds hmax]
  obtain ⟨d, ds, rfl⟩ := List.exists_cons_of_ne_nil hne
  dsimp only [List.map_cons]
  rw [afterDigits_eq hpower hrest (by simp only [Nat.pow_eq] at hsmall ⊢; omega)]
  show scaled negative _ (0 - ((d :: ds).length : Int) + written power) rest = _
  congr 1
  omega

/-- What comes behind the digits in front of a number, of which some may not have been taken. -/
def behindWhole (negative : Bool) (n dropped : Nat) (bs : List UInt8) : Reading Json :=
  let ended : Reading Json :=
    if dropped = 0 then .ok (wholeNumber negative n, bs) else scaled negative n dropped bs
  match bs with
  | [] => ended
  | c :: rest =>
    if c = ascii '.' then fractionPart negative n dropped rest
    else if c = ascii 'e' ∨ c = ascii 'E' then exponentPart negative n dropped rest
    else ended

/-- A leading zero is followed by no digit. -/
theorem not_idle {d : Char} (hd : d.isDigit = true) (hzero : d = '0' → ds = [])
    (hrest : NoDigit rest) :
    ¬ (ascii d = ascii '0' ∧ ((ds.map ascii ++ rest).head?.any isDigit) = true) := by
  have hrange := toNat_digit hd
  rintro ⟨hfirst, hany⟩
  rw [hzero ((ascii_inj (by omega) (by decide)).mp hfirst), List.map_nil, List.nil_append,
    Option.any_eq_true] at hany
  obtain ⟨b, hb, hdigit⟩ := hany
  rw [hrest b hb] at hdigit
  cases hdigit

/-- The digits in front of a number, of which none is an idle zero. -/
theorem number_whole (hlead : ∃ d ds', ds = d :: ds' ∧ (d = '0' → ds' = []))
    (hds : ∀ c ∈ ds, c.isDigit = true) (hrest : NoDigit rest) :
    number negative (ds.map ascii ++ rest) =
      behindWhole negative (appendDigits 0 (ds.map ascii)).1 (appendDigits 0 (ds.map ascii)).2.2
        rest := by
  obtain ⟨d, ds', rfl, hzero⟩ := hlead
  have hd := hds d List.mem_cons_self
  have htake := takeWhile_digits hds hrest
  have hdrop := dropWhile_digits hds hrest
  rw [List.map_cons, List.cons_append] at htake hdrop ⊢
  rw [number, if_neg (by simp [isDigit_ascii hd]), if_neg (not_idle hd hzero hrest)]
  dsimp only
  rw [htake, hdrop]
  cases rest <;> rfl

/-- The digits in front of a number that are all taken. -/
theorem number_eq (hlead : ∃ d ds', ds = d :: ds' ∧ (d = '0' → ds' = []))
    (hds : ∀ c ∈ ds, c.isDigit = true) (hrest : NoDigit rest)
    (hmax : Nat.ofDigitChars 10 ds 0 ≤ maxSignificand) :
    number negative (ds.map ascii ++ rest) =
      behindWhole negative (Nat.ofDigitChars 10 ds 0) 0 rest := by
  rw [number_whole hlead hds hrest, appendDigits_eq hds hmax]

/-- A layout is read as its significand, scaled by its power of ten. -/
theorem number_layout {l : Layout} (h : l.Proper) (hrest : Ends rest)
    (hmax : l.significand ≤ maxSignificand)
    (hsmall : l.fraction.length + (written l.power).natAbs < Nat.pow 2 31) :
    number negative (l.text.map ascii ++ rest) =
      scaled negative l.significand l.exponent rest := by
  unfold Layout.significand at hmax ⊢
  rw [Nat.ofDigitChars_append] at hmax ⊢
  have hpart := Nat.le_trans (le_ofDigitChars l.fraction _) hmax
  have htext : l.text.map ascii ++ rest = l.whole.map ascii ++
      ((fractionText l.fraction).map ascii ++ ((powerText l.power).map ascii ++ rest)) := by
    unfold Layout.text
    simp only [List.map_append, List.append_assoc]
  rw [htext]
  cases hf : l.fraction with
  | cons f fs =>
    rw [hf] at hmax hsmall
    have hstop : NoDigit ((fractionText (f :: fs)).map ascii ++
        ((powerText l.power).map ascii ++ rest)) := by
      intro b hb
      obtain rfl := Option.some.inj hb
      decide
    rw [number_eq h.whole h.wholeDigits hstop hpart]
    show behindWhole negative _ 0 (ascii '.' :: ((f :: fs).map ascii ++ _)) = _
    rw [behindWhole, if_pos rfl, Int.natCast_zero, fractionPart_eq (List.cons_ne_nil f fs)
      (hf ▸ h.fractionDigits) h.powerDigits hrest hmax hsmall]
    unfold Layout.exponent
    rw [hf]
  | nil =>
    -- without a point there is a power of ten
    cases hp : l.power with
    | none => exact absurd hp (h.marked hf)
    | some power =>
      obtain ⟨below, ds⟩ := power
      obtain ⟨hne, hds⟩ := h.powerDigits below ds hp
      have hstop : NoDigit ((powerText (some (below, ds))).map ascii ++ rest) :=
        powerText_noDigit _ hrest
      have hmark : ¬ ascii 'e' = ascii '.' := by decide
      rw [hf, hp, natAbs_written] at hsmall
      show number negative (l.whole.map ascii ++
        ((powerText (some (below, ds))).map ascii ++ rest)) = _
      rw [number_eq h.whole h.wholeDigits hstop hpart]
      show behindWhole negative _ 0 (ascii 'e' :: ascii (if below then '-' else '+') ::
        (ds.map ascii ++ rest)) = _
      rw [behindWhole, if_neg hmark, if_pos (Or.inl rfl),
        exponentPart_eq hne hds hrest.noDigit (by simpa using hsmall)]
      unfold Layout.exponent
      rw [hf, hp]
      congr 1
      show 0 + written _ = written _ - ((0 : Nat) : Int)
      omega

/-- Digits alone are read as a whole number. -/
theorem number_digits {n : Nat} (hrest : Ends rest) (hmax : n ≤ maxSignificand) :
    number negative ((Nat.toDigits 10 n).map ascii ++ rest) =
      .ok (wholeNumber negative n, rest) := by
  have hvalue : Nat.ofDigitChars 10 (Nat.toDigits 10 n) 0 = n := Nat.ofDigitChars_ten_toDigits
  rw [number_eq (Shortest.toDigits_lead n) Shortest.isDigit_toDigits hrest.noDigit
    (by rwa [hvalue]), hvalue]
  cases rest with
  | nil => rfl
  | cons b bs =>
    obtain ⟨-, hpoint, he, hE⟩ := hrest b rfl
    have hno : ¬ (b = ascii 'e' ∨ b = ascii 'E') := fun h => h.elim he hE
    rw [behindWhole, if_neg hpoint, if_neg hno, if_pos rfl]

end TableFeed.Json.Read
