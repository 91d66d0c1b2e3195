import Mathlib.Data.Int.Cast.Lemmas
import TableFeed.Database.Cell
import TableFeed.Proofs.Calendar.Stamps
import TableFeed.Proofs.Database.Texts

/-!
# Amounts of money

An amount is a count of cents of 64 bits with a sign. Its sign, its units and its cents are written apart,
each from the magnitude, which the least count has only in a word without a sign. The parts are those of a
number in JSON, and read together they give the amount back.

* **`toNat_magnitude`** — the magnitude of a count fits a word.
* **`ofDigitChars_parts`** — the crux: units and cents together are the digits of the magnitude, also where
  the cents begin with a zero.
* **`money_exact`** — the text of an amount is a number in JSON, denotes the amount, is that of no other
  amount and is published as it is.
-/

namespace TableFeed.ColumnType

open Json (NumberText)

/-! ## Words -/

/-- The magnitude of a count in a word without a sign; the word of a negative count is negated. -/
def magnitude (cents : Int64) : UInt64 :=
  if cents < 0 then -cents.toUInt64 else cents.toUInt64

/-- The magnitude of a count fits a word, that of the least count too. -/
theorem toNat_magnitude (cents : Int64) : (magnitude cents).toNat = cents.toInt.natAbs := by
  -- a word denotes itself, or what is left of 2 ^ 64
  have hword : cents.toInt = if 2 * cents.toUInt64.toNat < 2 ^ 64 then (cents.toUInt64.toNat : ℤ)
      else cents.toUInt64.toNat - 2 ^ 64 :=
    BitVec.toInt_eq_toNat_cond cents.toBitVec
  have hlt : cents.toUInt64.toNat < 18446744073709551616 := cents.toUInt64.toNat_lt_size
  have hneg : cents < 0 ↔ cents.toInt < 0 := Int64.lt_iff_toInt_lt
  unfold magnitude
  by_cases h : cents < 0
  · have hnegated : (-cents.toUInt64).toNat =
        (18446744073709551616 - cents.toUInt64.toNat) % 18446744073709551616 :=
      UInt64.toNat_neg _
    rw [if_pos h, hnegated]
    rw [hneg] at h
    split at hword <;> omega
  · rw [if_neg h]
    rw [hneg] at h
    split at hword <;> omega

/-! ## Parts of an amount -/

/-- The text of an amount, by its parts. -/
def moneyParts (cents : ℤ) : NumberText where
  negative := cents < 0
  whole := Nat.toDigits 10 (cents.natAbs / 100)
  fraction := (Digits.padded 2 (cents.natAbs % 100)).toList
  power := none

section

variable (cents : ℤ)

-- `rfl` would open the digits before the record
theorem whole_moneyParts : (moneyParts cents).whole = Nat.toDigits 10 (cents.natAbs / 100) := by
  simp only [moneyParts]

theorem fraction_moneyParts :
    (moneyParts cents).fraction = (Digits.padded 2 (cents.natAbs % 100)).toList := by
  simp only [moneyParts]

theorem length_fraction : (moneyParts cents).fraction.length = 2 := by
  have hcents : cents.natAbs % 100 < 10 ^ 2 := Nat.mod_lt _ (by decide)
  rw [fraction_moneyParts, Calendar.length_padded (by decide) hcents]

theorem moneyText_toList : (moneyText cents).toList = (moneyParts cents).text := by
  have hpoint : Shortest.Layout.fractionText (moneyParts cents).fraction =
      '.' :: (moneyParts cents).fraction := by
    obtain ⟨c, cs, hcs⟩ := List.exists_cons_of_length_pos
      (Nat.lt_of_lt_of_eq Nat.two_pos (length_fraction cents).symm)
    rw [hcs]
    rfl
  unfold moneyText NumberText.text NumberText.unsigned
  rw [hpoint]
  simp only [String.toList_append, Shortest.toString_toList, moneyParts, NumberText.powerText,
    List.append_nil, decide_eq_true_eq, List.append_assoc]
  by_cases hneg : cents < 0
  · rw [if_pos hneg, if_pos hneg]
    rfl
  · rw [if_neg hneg, if_neg hneg]
    rfl

/-- There is a digit in front of the point, and no idle zero. -/
theorem proper_moneyParts : (moneyParts cents).Proper where
  whole := whole_moneyParts cents ▸ Shortest.toDigits_lead _
  wholeDigits := whole_moneyParts cents ▸ Shortest.isDigit_toDigits
  fractionDigits := fraction_moneyParts cents ▸ Calendar.isDigit_padded
  power := NumberText.isPower_none

/-- Units and cents together are the digits of the magnitude. -/
theorem ofDigitChars_parts :
    Nat.ofDigitChars 10 ((moneyParts cents).whole ++ (moneyParts cents).fraction) 0 = cents.natAbs := by
  have hfraction : Nat.ofDigitChars 10 (moneyParts cents).fraction 0 = cents.natAbs % 100 := by
    rw [fraction_moneyParts, ← Digits.toNat_eq, Calendar.toNat_padded]
  -- two more digits make a hundred cents of every unit
  rw [Nat.ofDigitChars_append, whole_moneyParts, Nat.ofDigitChars_ten_toDigits,
    Nat.ofDigitChars_eq_ofDigitChars_zero, hfraction, length_fraction]
  omega

/-- The text of an amount denotes it. -/
theorem denotes_moneyText : Numeral.Denotes (moneyText cents) (cents / 100) := by
  have h := NumberText.denotes_text (moneyText_toList cents) (proper_moneyParts cents) rfl
  rw [ofDigitChars_parts, length_fraction] at h
  convert h using 1
  have habs : (cents.natAbs : ℚ) = |(cents : ℚ)| := by
    rw [Nat.cast_natAbs, Int.cast_abs]
  unfold Numeral.signed moneyParts
  simp only [decide_eq_true_eq]
  rw [habs]
  split
  · rename_i hneg
    rw [abs_of_neg (Int.cast_lt_zero.mpr hneg)]
    norm_num [div_eq_mul_inv]
  · rename_i hneg
    rw [abs_of_nonneg (Int.cast_nonneg (not_lt.mp hneg))]
    norm_num [div_eq_mul_inv]

theorem moneyText_inj {other : ℤ} (h : moneyText other = moneyText cents) : other = cents := by
  have hequal : (other : ℚ) / 100 = cents / 100 :=
    Numeral.Denotes.eq (denotes_moneyText other) (h ▸ denotes_moneyText cents)
  rw [div_left_inj' (by norm_num)] at hequal
  exact_mod_cast hequal

end

/-! ## Publishing -/

section

variable {cents : ℤ} (h : cents.natAbs ≤ 2 ^ 63)
include h

/-- An amount of 64 bits is far below the limit of floating-point numbers. -/
theorem classify_moneyText : Sample.classify (moneyText cents) = .numeric := by
  refine (denotes_moneyText cents).classify ?_
  have hmagnitude : |(cents : ℚ)| < 10 ^ 308 := by
    have hbelow : cents.natAbs < 10 ^ 308 := h.trans_lt (by decide +kernel)
    rw [← Int.cast_abs, ← Nat.cast_natAbs]
    exact_mod_cast hbelow
  calc |(cents : ℚ) / 100| = |(cents : ℚ)| / 100 := by
        rw [abs_div, abs_of_pos (by norm_num : (0 : ℚ) < 100)]
    _ ≤ |(cents : ℚ)| := div_le_self (abs_nonneg _) (by norm_num)
    _ < 10 ^ 308 := hmagnitude
    _ < Binary64.limit := Json.Read.lt_limit

theorem literal_moneyText : Sample.literal (moneyText cents) = moneyText cents := by
  have hshort : (moneyParts cents).whole.length ≤ Json.Read.shortLength := by
    rw [whole_moneyParts]
    refine (Nat.length_toDigits_le_iff (by decide) (by decide)).mpr ?_
    exact (Nat.div_le_self _ _).trans_lt (h.trans_lt (by decide +kernel))
  exact Sample.literal_number (moneyText_toList cents) (proper_moneyParts cents) rfl hshort
    (classify_moneyText h)

end

/-- **An amount of money is written exactly.** The text of a count of cents is a number in JSON with two
digits behind its point and with a minus just if the count is negative. It denotes a hundredth of the count
and is the text of no other count. The magnitude fits a word, so that units and cents are computed without
overflow, and a sample of the amount holds the text as it is. -/
theorem money_exact (cents : Int64) :
    (∃ t : NumberText, (moneyText cents.toInt).toList = t.text ∧ t.Proper ∧
      (t.negative = true ↔ cents < 0) ∧ t.fraction.length = 2 ∧ t.power = none) ∧
    Numeral.Denotes (moneyText cents.toInt) (cents.toInt / 100) ∧
    (∀ other : Int64, moneyText other.toInt = moneyText cents.toInt → other = cents) ∧
    ((magnitude cents).toNat = cents.toInt.natAbs ∧
      (magnitude cents / 100).toNat = cents.toInt.natAbs / 100 ∧
      (magnitude cents % 100).toNat = cents.toInt.natAbs % 100) ∧
    ∀ name, Sample.encode name (moneyText cents.toInt) =
      "[\x7b\"n\":" ++ Json.quote name ++ ",\"v\":" ++ moneyText cents.toInt ++ "\x7d]" := by
  have hsign : (moneyParts cents.toInt).negative = true ↔ cents < 0 := by
    rw [Int64.lt_iff_toInt_lt]
    exact decide_eq_true_iff
  have hbound : cents.toInt.natAbs ≤ 2 ^ 63 := by
    have hleast := cents.le_toInt
    have hgreatest := cents.toInt_lt
    omega
  refine ⟨⟨moneyParts cents.toInt, moneyText_toList _, proper_moneyParts _, hsign, length_fraction _,
    rfl⟩, denotes_moneyText _, fun other hother => ?_, ⟨?_, ?_, ?_⟩, fun name => ?_⟩
  · exact Int64.toInt_inj.mp (moneyText_inj _ hother)
  · exact toNat_magnitude cents
  · rw [UInt64.toNat_div, toNat_magnitude]
    rfl
  · rw [UInt64.toNat_mod, toNat_magnitude]
    rfl
  · have htag : ",\"v\":" = ",\"" ++ "v" ++ "\":" := by decide
    unfold Sample.encode
    rw [classify_moneyText hbound, literal_moneyText hbound, Sample.Kind.tag, htag]
    simp only [String.append_assoc]

end TableFeed.ColumnType
