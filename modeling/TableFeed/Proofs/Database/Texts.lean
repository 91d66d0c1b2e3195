import TableFeed.Proofs.Database.Decimals
import TableFeed.Proofs.Json.Plain
import TableFeed.Proofs.Sample.Kinds

/-!
# The text of a decimal

What is written without a power of ten denotes the number of its digits. If that is not too great it is
taken for a number, and it is published as it is, since it is a number in JSON too.

* **`Denotes`** — the number that a text denotes.
* **`denotes_text`**, **`Denotes.classify`**, **`literal_number`** — the steps for any such text.
* **`text_denotes`**, **`classify_text`**, **`literal_text`** — what follows for a decimal.
-/

namespace TableFeed

namespace Numeral

/-- The number of a magnitude and a sign. -/
def signed (negative : Bool) (y : ℚ) : ℚ :=
  if negative then -y else y

section

variable {negative : Bool} {y z : ℚ}

theorem signed_inj : signed negative y = signed negative z ↔ y = z := by
  cases negative with
  | true => exact neg_inj
  | false => exact Iff.rfl

theorem signed_eq_zero : signed negative y = 0 ↔ y = 0 := by
  cases negative with
  | true => exact neg_eq_zero
  | false => exact Iff.rfl

theorem abs_signed (hy : 0 ≤ y) : |signed negative y| = y := by
  cases negative with
  | true => exact (abs_neg y).trans (abs_of_nonneg hy)
  | false => exact abs_of_nonneg hy

end

/-- A text denotes a number: it is a numeral of that value. -/
def Denotes (s : String) (x : ℚ) : Prop :=
  ∃ negative n e, parse? s = some (.decimal negative n e) ∧ x = signed negative (n * 10 ^ e)

/-- A text denotes no two numbers. -/
theorem Denotes.eq {s : String} {x y : ℚ} (hx : Denotes s x) (hy : Denotes s y) : x = y := by
  obtain ⟨negative, n, e, hparse, rfl⟩ := hx
  obtain ⟨negative', n', e', hparse', rfl⟩ := hy
  obtain ⟨rfl, rfl, rfl⟩ := Numeral.decimal.inj (Option.some.inj (hparse.symm.trans hparse'))
  rfl

/-- A text that denotes a number within the range of the format is taken for a number. -/
theorem Denotes.classify {s : String} {x : ℚ} (h : Denotes s x) (hx : |x| < Binary64.limit) :
    Sample.classify s = .numeric := by
  obtain ⟨negative, n, e, hparse, rfl⟩ := h
  rw [abs_signed (by positivity)] at hx
  refine Sample.classify_of_number (congrArg (Option.map Numeral.toBinary64) hparse) ?_
  exact Binary64.ofDecimal_finite negative hx

end Numeral

/-! ## Numbers without a power of ten -/

section

variable {s : String} {t : Json.NumberText} (hs : s.toList = t.text) (h : t.Proper)
  (hpower : t.power = none)
include hs h hpower

/-- What is written without a power of ten denotes the number of its digits. -/
theorem Json.NumberText.denotes_text : Numeral.Denotes s (Numeral.signed t.negative
    (Nat.ofDigitChars 10 (t.whole ++ t.fraction) 0 * 10 ^ (-(t.fraction.length : ℤ)))) := by
  obtain ⟨c, cs, hwhole, -⟩ := h.whole
  have hne : t.whole ≠ [] := hwhole ▸ List.cons_ne_nil c cs
  refine ⟨_, _, _, Numeral.parse?_digits ?_ hne h.wholeDigits h.fractionDigits, rfl⟩
  rw [hs, Json.NumberText.text, Json.NumberText.unsigned, hpower, Json.NumberText.powerText,
    List.append_nil]

/-- A number with few digits in front of its point is published as it is. -/
theorem Sample.literal_number (hshort : t.whole.length ≤ Json.Read.shortLength)
    (hnumeric : classify s = .numeric) : literal s = s := by
  have hnumber : Json.Read.isNumber (Utf8.bytes s) = true := by
    rw [Utf8.bytes, hs]
    exact Json.Read.isNumber_short h hpower hshort
  unfold literal
  rw [hnumeric]
  exact if_pos hnumber

end

namespace Decimal96

open Shortest (pointed positional)
open Shortest.Layout (fractionText)

variable {d : Decimal96}

/-- The number that a decimal is. -/
def value (d : Decimal96) : ℚ :=
  Numeral.signed d.negative d.magnitude

/-- The magnitude of a decimal, by its digits. -/
def digits (d : Decimal96) : Shortest.Decimal :=
  ⟨d.mantissa, -(d.scale : ℤ)⟩

theorem value_digits (d : Decimal96) : d.digits.value = d.magnitude := by
  unfold digits Shortest.Decimal.value magnitude
  dsimp only
  rw [zpow_neg, zpow_natCast, div_eq_mul_inv]

theorem text_eq (d : Decimal96) : d.text = Shortest.sign d.negative ++ positional d.digits := by
  unfold text positional digits
  dsimp only
  by_cases hwhole : d.scale = 0
  · have hzeros : Shortest.zeros (-(d.scale : ℤ)).toNat = "" := by
      rw [hwhole]
      rfl
    rw [if_pos hwhole, if_pos (by omega), hzeros, String.append_empty, ite_self]
  · rw [if_neg hwhole, if_neg (by omega), neg_neg, Int.toNat_natCast]

/-- A decimal is written as a text that denotes it. -/
theorem text_denotes (d : Decimal96) : Numeral.Denotes d.text d.value := by
  obtain ⟨n, e, hparse, hvalue⟩ := Numeral.parse?_positional d.negative d.digits
  rw [← text_eq] at hparse
  refine ⟨d.negative, n, e, hparse, ?_⟩
  rw [hvalue, value_digits]
  rfl

/-- A mantissa that fits is far below the limit of floating-point numbers. -/
theorem classify_text (hd : d.mantissa < limit) : Sample.classify d.text = .numeric := by
  refine d.text_denotes.classify ?_
  have hmantissa : (d.mantissa : ℚ) < 10 ^ 308 := by
    have hfits : d.mantissa < 10 ^ 308 := hd.trans (by decide +kernel)
    exact_mod_cast hfits
  calc |d.value| = d.mantissa / 10 ^ d.scale := Numeral.abs_signed (by unfold magnitude; positivity)
    _ ≤ d.mantissa := div_le_self (Nat.cast_nonneg _) (one_le_pow₀ (by norm_num))
    _ < 10 ^ 308 := hmantissa
    _ < Binary64.limit := Json.Read.lt_limit

/-! ## Numbers in JSON -/

/-- The text of a decimal, by its parts. -/
def numberText (d : Decimal96) : Json.NumberText where
  negative := d.negative
  whole := (pointed d.digits).1
  fraction := (pointed d.digits).2
  power := none

theorem text_toList (d : Decimal96) : d.text.toList = d.numberText.text := by
  rw [text_eq, String.toList_append, Shortest.positional_pointed]
  unfold numberText Json.NumberText.text Json.NumberText.unsigned Json.NumberText.powerText
  dsimp only
  rw [List.append_nil]
  cases d.negative <;> rfl

/-- There are no idle zeros in front of the point, and no more digits than a mantissa has. -/
theorem whole_pointed (hd : d.mantissa < limit) :
    (∃ c cs, (pointed d.digits).1 = c :: cs ∧ (c = '0' → cs = [])) ∧
      (pointed d.digits).1.length ≤ Json.Read.shortLength := by
  obtain ⟨c, cs, hcs, hlead⟩ := Shortest.toDigits_lead d.mantissa
  have hlength : (Nat.toDigits 10 d.mantissa).length ≤ Json.Read.shortLength := by
    have hfits : d.mantissa < 10 ^ Json.Read.shortLength := hd.trans (by decide +kernel)
    exact (Nat.length_toDigits_le_iff (by decide) (by decide)).mpr hfits
  unfold pointed digits
  dsimp only
  split
  · -- no zeros are put behind a mantissa
    rename_i hwhole
    have hzeros : List.replicate (-(d.scale : ℤ)).toNat '0' = [] := by
      rw [Int.toNat_of_nonpos (by omega)]
      rfl
    rw [hzeros, List.append_nil, ite_self]
    exact ⟨⟨c, cs, hcs, hlead⟩, hlength⟩
  · split
    · rename_i hplaces
      obtain ⟨k, hk⟩ : ∃ k, (Nat.toDigits 10 d.mantissa).length - (- -(d.scale : ℤ)).toNat = k + 1 :=
        ⟨_, (Nat.succ_pred_eq_of_pos (by omega)).symm⟩
      refine ⟨⟨c, cs.take k, ?_, fun hzero => ?_⟩, (List.length_take_le' _ _).trans hlength⟩
      · rw [hk, hcs, List.take_succ_cons]
      · rw [hlead hzero, List.take_nil]
    · exact ⟨⟨'0', [], rfl, fun _ => rfl⟩, Nat.le_of_ble_eq_true rfl⟩

theorem proper_numberText (hd : d.mantissa < limit) : d.numberText.Proper where
  whole := (whole_pointed hd).1
  wholeDigits := (Shortest.pointed_digits d.digits).2.1
  fractionDigits := (Shortest.pointed_digits d.digits).2.2
  power := Json.NumberText.isPower_none

/-- The text of a decimal is published as it is. -/
theorem literal_text (hd : d.mantissa < limit) : Sample.literal d.text = d.text :=
  Sample.literal_number d.text_toList (proper_numberText hd) rfl (whole_pointed hd).2 (classify_text hd)

end Decimal96

end TableFeed
