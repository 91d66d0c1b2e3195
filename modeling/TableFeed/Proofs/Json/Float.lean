import TableFeed.Proofs.Json.Number
import TableFeed.Proofs.Number.Digits

/-!
# Floating-point numbers that are read

A reader of numbers scales a significand by a rounded power of ten, so it can miss the last bit. It
never misses the format: every number it gives is a finite one, and it gives one for the text of
every finite number.

* **`scaleByTen_cases`** — scaling gives a number of the format unless the power of ten is too great
  or the product is.
* **`scaled_finite`** — so whatever is read is finite.
* **`scaled_shortest`** — the crux: the text of a finite number is read as a finite number. It lies
  below the upper end of the interval around its number, and the two roundings on the way add less
  than is missing from there to the end of the format; for the two greatest numbers it does not,
  and these are computed.
-/

namespace TableFeed

/-- A finite number of the format. -/
def Binary64.IsCanonical (x : Binary64) : Prop :=
  ∃ s m e, x = .finite s m e ∧ Binary64.Canonical m e

theorem Binary64.IsCanonical.isFinite {x : Binary64} (h : x.IsCanonical) : x.isFinite = true := by
  obtain ⟨s, m, e, rfl, -⟩ := h
  rfl

theorem Binary64.IsCanonical.neg {x : Binary64} (h : x.IsCanonical) : x.neg.IsCanonical := by
  obtain ⟨s, m, e, rfl, hc⟩ := h
  exact ⟨!s, m, e, rfl, hc⟩

theorem Binary64.isCanonical_zero (negative : Bool) : (Binary64.zero negative).IsCanonical :=
  ⟨negative, 0, _, rfl, by decide⟩

namespace Json.Read

open Binary64

/-! ## Roundings on the way -/

theorem ofRatio_canonical (negative : Bool) (num : Nat) {den : Nat} (hd : 0 < den)
    (h : (ofRatio negative num den).isFinite = true) :
    (ofRatio negative num den).IsCanonical := by
  by_cases hn : num = 0
  · rw [ofRatio, if_pos hn]
    exact isCanonical_zero negative
  · rcases ofRatio_cases negative (Nat.pos_of_ne_zero hn) hd with ⟨m, e, heq, hc, -⟩ | ⟨heq, -⟩
    · exact ⟨negative, m, e, heq, hc⟩
    · rw [heq] at h
      cases h

/-- A rough bound for the result of rounding. -/
theorem ofRatio_le {negative s : Bool} {num den m : Nat} {e : Int} (hd : 0 < den)
    (h : ofRatio negative num den = .finite s m e) :
    magnitude m e ≤ 2 * ((num : ℚ) / den) + 1 := by
  have hnonneg : 0 ≤ (num : ℚ) / den := by positivity
  by_cases hn : num = 0
  · rw [ofRatio, if_pos hn] at h
    obtain ⟨-, rfl, rfl⟩ := Binary64.finite.inj h
    unfold magnitude
    simp only [Nat.cast_zero, zero_mul]
    linarith
  · have hn := Nat.pos_of_ne_zero hn
    rcases ofRatio_cases negative hn hd with ⟨m', e', heq, -, hnear⟩ | ⟨heq, -⟩
    · obtain ⟨rfl, rfl, rfl⟩ := Binary64.finite.inj (h.symm.trans heq)
      have hupper := (abs_le.mp hnear).2
      -- half a unit is no more than the fraction, or less than one
      have hunit : (2 : ℚ) ^ exponentFor num den / 2 ≤ (num : ℚ) / den + 1 := by
        obtain ⟨-, -, hfull | hleast⟩ := exponentFor_spec hn hd
        · have hpow : (0 : ℚ) < 2 ^ exponentFor num den := by positivity
          have := (le_div_iff₀ hpow).mp hfull
          linarith
        · have hone : (2 : ℚ) ^ exponentFor num den ≤ 1 := by
            rw [hleast]
            exact zpow_le_one_of_nonpos₀ (by norm_num) (by decide)
          linarith
      linarith
    · rw [heq] at h
      cases h

/-- The power of ten that readers scale by at most is below the limit of the format. -/
theorem lt_limit : (10 : ℚ) ^ 308 < limit := by
  have hnat : 10 ^ 308 * 2 < (2 ^ 54 - 1) * 2 ^ 971 := by decide +kernel
  have hten : (10 : ℚ) ^ 308 = ((10 ^ 308 : Nat) : ℚ) := (Nat.cast_pow 10 308).symm
  have htwo : (2 : ℚ) ^ (971 : Int) = ((2 ^ 971 : Nat) : ℚ) :=
    (zpow_natCast (2 : ℚ) 971).trans (Nat.cast_pow 2 971).symm
  unfold limit
  rw [hten, htwo]
  generalize 10 ^ 308 = t at hnat ⊢
  generalize 2 ^ 971 = p at hnat ⊢
  have hrat : (t : ℚ) * 2 < 18014398509481983 * p := by exact_mod_cast hnat
  norm_num
  linarith

theorem powerOfTen_near {k : Nat} (hk : k ≤ 308) :
    |magnitude (powerOfTen k).1 (powerOfTen k).2 - 10 ^ k| ≤ 10 ^ k / 2 ^ 53 := by
  have hvalue : ((Nat.pow 10 k : Nat) : ℚ) / (1 : Nat) = 10 ^ k := by
    simp only [Nat.pow_eq, Nat.cast_pow, Nat.cast_ofNat, Nat.cast_one, div_one]
  have hsmall : (10 : ℚ) ^ k ≤ 10 ^ 308 := pow_le_pow_right₀ (by norm_num) hk
  have hnormal : (2 : ℚ) ^ (-1022 : Int) ≤ 10 ^ k :=
    (zpow_le_one_of_nonpos₀ (by norm_num) (by norm_num)).trans (one_le_pow₀ (by norm_num))
  rw [← hvalue] at hsmall hnormal
  obtain ⟨m, e, heq, -⟩ := ofRatio_finite false _ Nat.one_pos (hsmall.trans_lt lt_limit)
  have hnear := ofRatio_near Nat.one_pos hnormal heq
  unfold powerOfTen
  rw [heq]
  rwa [hvalue] at hnear

/-- A power of ten that was rounded is at least half of what it was. -/
theorem half_le_powerOfTen {k : Nat} (hk : k ≤ 308) :
    10 ^ k / 2 ≤ magnitude (powerOfTen k).1 (powerOfTen k).2 := by
  have hlow := (abs_le.mp (powerOfTen_near hk)).1
  have hten : (0 : ℚ) < 10 ^ k := by positivity
  have hpart : (10 : ℚ) ^ k / 2 ^ 53 ≤ 10 ^ k / 2 := by
    gcongr
    norm_num
  linarith

variable {m m' : Nat} {e e' : Int}

theorem product_eq (m : Nat) (e : Int) (m' : Nat) (e' : Int) : ∃ num den, 0 < den ∧
    product m e m' e' = ofRatio false num den ∧
    (num : ℚ) / den = magnitude m e * magnitude m' e' := by
  obtain ⟨hpos, hvalue⟩ := ratio_eq (m * m') (e + e')
  refine ⟨_, _, hpos, rfl, hvalue.trans ?_⟩
  unfold magnitude
  rw [zpow_add₀ two_ne_zero]
  push_cast
  ring

theorem quotient_eq (m : Nat) (e e' : Int) (hm' : m' ≠ 0) : ∃ num den, 0 < den ∧
    quotient m e m' e' = ofRatio false num den ∧
    (num : ℚ) / den = magnitude m e / magnitude m' e' := by
  obtain ⟨hpos, hvalue⟩ := ratio_eq 1 (e - e')
  refine ⟨m * (ratio 1 (e - e')).1, m' * (ratio 1 (e - e')).2,
    Nat.mul_pos (Nat.pos_of_ne_zero hm') hpos, rfl, ?_⟩
  rw [Nat.cast_mul, Nat.cast_mul, mul_div_mul_comm, hvalue]
  unfold magnitude
  rw [Nat.cast_one, one_mul, zpow_sub₀ two_ne_zero, mul_div_mul_comm]

/-- Dividing a significand by a power of ten stays within the format. -/
theorem quotient_small {k : Nat} (hk : k ≤ 308) (hm : magnitude m e ≤ 10 ^ 20) :
    ∃ s m' e', quotient m e (powerOfTen k).1 (powerOfTen k).2 = .finite s m' e' ∧
      Canonical m' e' ∧ magnitude m' e' ≤ 4 * 10 ^ 20 / 10 ^ k + 1 := by
  have hten : (0 : ℚ) < 10 ^ k := by positivity
  have hhalf := half_le_powerOfTen hk
  have hdivisor : 0 < magnitude (powerOfTen k).1 (powerOfTen k).2 := by linarith
  have hne : (powerOfTen k).1 ≠ 0 := by
    intro hzero
    rw [hzero, magnitude, Nat.cast_zero, zero_mul] at hdivisor
    exact lt_irrefl _ hdivisor
  obtain ⟨num, den, hpos, hquotient, hvalue⟩ := quotient_eq m e (powerOfTen k).2 hne
  have hupper : (num : ℚ) / den ≤ 2 * 10 ^ 20 / 10 ^ k := by
    rw [hvalue, div_le_div_iff₀ hdivisor hten]
    calc magnitude m e * 10 ^ k ≤ 10 ^ 20 * 10 ^ k := by gcongr
      _ = 2 * 10 ^ 20 * (10 ^ k / 2) := by ring
      _ ≤ 2 * 10 ^ 20 * magnitude (powerOfTen k).1 (powerOfTen k).2 := by gcongr
  have hone : (1 : ℚ) ≤ 10 ^ k := one_le_pow₀ (by norm_num)
  have hsmall : (num : ℚ) / den ≤ 10 ^ 308 := by
    calc (num : ℚ) / den ≤ 2 * 10 ^ 20 / 10 ^ k := hupper
      _ ≤ 2 * 10 ^ 20 := div_le_self (by norm_num) hone
      _ ≤ 10 ^ 21 := by norm_num
      _ ≤ 10 ^ 308 := pow_le_pow_right₀ (by norm_num) (by norm_num)
  obtain ⟨m', e', heq, hc⟩ := ofRatio_finite false num hpos (hsmall.trans_lt lt_limit)
  refine ⟨false, m', e', hquotient.trans heq, hc, ?_⟩
  calc magnitude m' e' ≤ 2 * ((num : ℚ) / den) + 1 := ofRatio_le hpos heq
    _ ≤ 2 * (2 * 10 ^ 20 / 10 ^ k) + 1 := by gcongr
    _ = 4 * 10 ^ 20 / 10 ^ k + 1 := by ring

/-! ## Scaling -/

/-- What scaling comes to: a number of the format, unless the power of ten is too great or the
product is. -/
def Scales (m : Nat) (e : Int) (power : Int) (result : Option Binary64) : Prop :=
  (∃ x, result = some x ∧ x.IsCanonical) ∨
    (result = none ∧ m ≠ 0 ∧ (308 < power ∨ 0 ≤ power ∧
      (product m e (powerOfTen power.toNat).1 (powerOfTen power.toNat).2).isFinite = false))

/-- Scaling by a power of ten that one multiplication or division does. -/
theorem scaleByTen_once (steps : Nat) {power : Int} (hm : magnitude m e ≤ 10 ^ 20)
    (hpower : m = 0 ∨ -308 ≤ power) : Scales m e power (scaleByTen steps m e power) := by
  rw [scaleByTen.eq_def]
  dsimp only
  split
  · exact Or.inl ⟨_, rfl, isCanonical_zero false⟩
  · rename_i hzero
    split
    · rename_i hgreat
      exact Or.inr ⟨rfl, hzero, Or.inl hgreat⟩
    · rename_i hsmall
      split
      · rename_i hup
        split
        · rename_i hfinite
          obtain ⟨num, den, hpos, hproduct, -⟩ :=
            product_eq m e (powerOfTen power.toNat).1 (powerOfTen power.toNat).2
          rw [hproduct] at hfinite ⊢
          exact Or.inl ⟨_, rfl, ofRatio_canonical false num hpos hfinite⟩
        · rename_i hinfinite
          exact Or.inr ⟨rfl, hzero, Or.inr ⟨hup, Bool.eq_false_iff.mpr hinfinite⟩⟩
      · rw [if_pos (hpower.resolve_left hzero)]
        obtain ⟨s, m', e', heq, hc, -⟩ := quotient_small (k := (-power).toNat) (by omega) hm
        exact Or.inl ⟨_, rfl, s, m', e', heq, hc⟩

theorem scaleByTen_cases (steps : Nat) (power : Int) (hm : magnitude m e ≤ 10 ^ 20) :
    Scales m e power (scaleByTen steps m e power) := by
  induction steps generalizing m e power with
  | zero =>
    by_cases hpower : m = 0 ∨ -308 ≤ power
    · exact scaleByTen_once 0 hm hpower
    · obtain ⟨hzero, hbelow⟩ := not_or.mp hpower
      rw [scaleByTen.eq_def]
      dsimp only
      rw [if_neg hzero, if_neg (by omega), if_neg (by omega), if_neg hbelow]
      exact Or.inl ⟨_, rfl, isCanonical_zero false⟩
  | succ steps ih =>
    by_cases hpower : m = 0 ∨ -308 ≤ power
    · exact scaleByTen_once (steps + 1) hm hpower
    · obtain ⟨hzero, hbelow⟩ := not_or.mp hpower
      obtain ⟨s, m', e', heq, -, hm'⟩ := quotient_small (k := 308) (le_refl 308) hm
      have hsmall : magnitude m' e' ≤ 10 ^ 20 := by
        refine hm'.trans ?_
        have hdivided : (4 : ℚ) * 10 ^ 20 / 10 ^ 308 ≤ 1 := by
          rw [div_le_one (by positivity)]
          calc (4 : ℚ) * 10 ^ 20 ≤ 10 ^ 21 := by norm_num
            _ ≤ 10 ^ 308 := pow_le_pow_right₀ (by norm_num) (by norm_num)
        calc (4 : ℚ) * 10 ^ 20 / 10 ^ 308 + 1 ≤ 1 + 1 := by gcongr
          _ ≤ 10 ^ 20 := by norm_num
      rw [scaleByTen.eq_def]
      dsimp only
      rw [if_neg hzero, if_neg (by omega), if_neg (by omega), if_neg hbelow, heq]
      dsimp only
      -- what is left of the power is still negative, so that only a number can come of it
      rcases ih (power + 308) hsmall with hx | ⟨-, -, hgreat | ⟨hup, -⟩⟩
      · exact Or.inl hx
      · omega
      · omega

/-- A significand as a number of the format. -/
theorem ofInt_near {n : Nat} (hn : n ≤ maxSignificand) :
    ∃ m e, ofInt n = .finite false m e ∧ Canonical m e ∧ magnitude m e ≤ 10 ^ 20 ∧
      magnitude m e ≤ n * (1 + 1 / 2 ^ 53) := by
  have hvalue : ((n : Nat) : ℚ) / (1 : Nat) = n := by rw [Nat.cast_one, div_one]
  have hupper : (n : ℚ) ≤ 10 ^ 20 / 4 := by
    have hmax : n ≤ 18446744073709551615 := hn
    have hrat : (n : ℚ) ≤ 18446744073709551615 := by exact_mod_cast hmax
    linarith
  have hsmall : ((n : Nat) : ℚ) / (1 : Nat) < limit := by
    rw [hvalue]
    calc (n : ℚ) ≤ 10 ^ 20 / 4 := hupper
      _ ≤ 10 ^ 20 := by norm_num
      _ ≤ 10 ^ 308 := pow_le_pow_right₀ (by norm_num) (by norm_num)
      _ < limit := lt_limit
  obtain ⟨m, e, heq, hc⟩ := ofRatio_finite false n Nat.one_pos hsmall
  have hofInt : ofInt n = ofRatio false n 1 := by
    unfold ofInt
    rw [decide_eq_false (by omega), Int.natAbs_natCast]
  refine ⟨m, e, hofInt.trans heq, hc, ?_, ?_⟩
  · have hle := ofRatio_le Nat.one_pos heq
    rw [hvalue] at hle
    linarith
  · by_cases hzero : n = 0
    · rw [hzero, ofRatio, if_pos rfl] at heq
      obtain ⟨-, rfl, rfl⟩ := Binary64.finite.inj heq
      rw [hzero]
      unfold magnitude
      simp
    · have hone : (1 : ℚ) ≤ n := by exact_mod_cast Nat.pos_of_ne_zero hzero
      have hnormal : (2 : ℚ) ^ (-1022 : Int) ≤ ((n : Nat) : ℚ) / (1 : Nat) := by
        rw [hvalue]
        exact (zpow_le_one_of_nonpos₀ (by norm_num) (by norm_num)).trans hone
      have hnear := (abs_le.mp (ofRatio_near Nat.one_pos hnormal heq)).2
      rw [hvalue] at hnear
      linarith

/-- A significand that is scaled gives a number of the format, or a failure. -/
theorem scaled_cases (negative : Bool) {n : Nat} (power : Int) (hn : n ≤ maxSignificand) :
    ∃ m e, Canonical m e ∧ magnitude m e ≤ n * (1 + 1 / 2 ^ 53) ∧
      ((∃ x, x.IsCanonical ∧ ∀ rest, scaled negative n power rest = .ok (.float x, rest)) ∨
        ((∀ rest, scaled negative n power rest = failHere .numberOutOfRange rest) ∧ m ≠ 0 ∧
          (308 < power ∨ 0 ≤ power ∧
            (product m e (powerOfTen power.toNat).1 (powerOfTen power.toNat).2).isFinite
              = false))) := by
  obtain ⟨m, e, heq, hc, hsmall, hnear⟩ := ofInt_near hn
  refine ⟨m, e, hc, hnear, ?_⟩
  unfold scaled
  simp only [heq]
  rcases scaleByTen_cases 3 power hsmall with ⟨x, hx, hcanonical⟩ | ⟨hnone, hrest⟩
  · rw [hx]
    refine Or.inl ⟨if negative then x.neg else x, ?_, fun _ => rfl⟩
    cases negative
    · exact hcanonical
    · exact hcanonical.neg
  · rw [hnone]
    exact Or.inr ⟨fun _ => rfl, hrest⟩

/-- Whatever is read of a significand and a power of ten is a finite number. -/
theorem scaled_finite {negative : Bool} {n : Nat} {power : Int} {rest rest' : List UInt8}
    {v : Json} (hn : n ≤ maxSignificand) (h : scaled negative n power rest = .ok (v, rest')) :
    ∃ x, v = .float x ∧ x.IsCanonical := by
  obtain ⟨m, e, -, -, ⟨x, hx, hread⟩ | ⟨hfail, -⟩⟩ := scaled_cases negative power hn
  · rw [hread] at h
    exact ⟨x, (Prod.mk.inj (Except.ok.inj h)).1.symm, hx⟩
  · rw [hfail] at h
    cases h

/-! ## The text of a finite number -/

open Shortest (digits layout)

/-- The upper end of the interval around a number that is neither of the two greatest. -/
theorem upper_end (hc : Canonical m e) (hlow : e ≤ 970 ∨ m ≤ 9007199254740989) :
    magnitude (4 * m + 2) (e - 2) ≤ 36028797018963958 * 2 ^ (969 : Int) := by
  obtain ⟨hm, -, he, -⟩ := hc
  have hm : m ≤ 9007199254740991 := Nat.le_of_lt_succ hm
  have he : e ≤ 971 := he
  have hcast : ((4 * m + 2 : Nat) : ℚ) = 4 * m + 2 := by push_cast; ring
  unfold magnitude
  rw [hcast]
  rcases hlow with hlow | hlow
  · have hrat : (m : ℚ) ≤ 9007199254740991 := by exact_mod_cast hm
    have hpow : (2 : ℚ) ^ (e - 2) ≤ 2 ^ (968 : Int) :=
      zpow_le_zpow_right₀ (by norm_num) (by omega)
    have hdouble : (2 : ℚ) ^ (969 : Int) = 2 ^ (968 : Int) * 2 := by
      rw [← zpow_add_one₀ two_ne_zero]
      rfl
    have hpos : (0 : ℚ) < 2 ^ (968 : Int) := by positivity
    rw [hdouble]
    generalize (2 : ℚ) ^ (968 : Int) = p at hpow hpos ⊢
    calc (4 * (m : ℚ) + 2) * 2 ^ (e - 2) ≤ (4 * 9007199254740991 + 2) * p := by gcongr
      _ ≤ 36028797018963958 * (p * 2) := by linarith
  · have hrat : (m : ℚ) ≤ 9007199254740989 := by exact_mod_cast hlow
    have hpow : (2 : ℚ) ^ (e - 2) ≤ 2 ^ (969 : Int) :=
      zpow_le_zpow_right₀ (by norm_num) (by omega)
    have hpos : (0 : ℚ) < 2 ^ (969 : Int) := by positivity
    generalize (2 : ℚ) ^ (969 : Int) = p at hpow hpos ⊢
    calc (4 * (m : ℚ) + 2) * 2 ^ (e - 2) ≤ (4 * 9007199254740989 + 2) * p := by gcongr
      _ = 36028797018963958 * p := by norm_num

/-- Two roundings on the way from there stay below the limit of the format. -/
theorem rounded_lt_limit :
    36028797018963958 * (2 : ℚ) ^ (969 : Int) * ((1 + 1 / 2 ^ 53) * (1 + 1 / 2 ^ 53)) < limit := by
  have hfour : (2 : ℚ) ^ (971 : Int) = 2 ^ (969 : Int) * 4 := by
    have hexp : (971 : Int) = 969 + 2 := rfl
    rw [hexp, zpow_add₀ two_ne_zero]
    norm_num
  have hpos : (0 : ℚ) < 2 ^ (969 : Int) := by positivity
  unfold limit
  rw [hfour]
  generalize (2 : ℚ) ^ (969 : Int) = p at hpos ⊢
  have hscale : 36028797018963958 * ((1 + 1 / 2 ^ 53) * (1 + 1 / 2 ^ 53)) <
      (((2 : ℚ) ^ 53 - 1 / 2) * 4) := by norm_num
  calc 36028797018963958 * p * ((1 + 1 / 2 ^ 53) * (1 + 1 / 2 ^ 53))
      = 36028797018963958 * ((1 + 1 / 2 ^ 53) * (1 + 1 / 2 ^ 53)) * p := by ring
    _ < ((2 : ℚ) ^ 53 - 1 / 2) * 4 * p := by gcongr
    _ = ((2 : ℚ) ^ 53 - 1 / 2) * (p * 4) := by ring

/-- A significand and a power of ten are read as a finite number if what they denote lies no higher
than that end. -/
theorem scaled_below (negative : Bool) {n : Nat} {p : Int} (hn : n ≤ maxSignificand)
    (hvalue : (n : ℚ) * 10 ^ p ≤ 36028797018963958 * 2 ^ (969 : Int)) :
    ∃ x, x.IsCanonical ∧ ∀ rest, scaled negative n p rest = .ok (.float x, rest) := by
  obtain ⟨m, e, -, hnear, hread | ⟨-, hzero, hbeyond⟩⟩ := scaled_cases negative p hn
  · exact hread
  · exfalso
    have hpos : 0 < n := by
      refine Nat.pos_of_ne_zero ?_
      rintro rfl
      have hm : (0 : ℚ) < magnitude m e := by
        have hone : (0 : ℚ) < m := by exact_mod_cast Nat.pos_of_ne_zero hzero
        unfold magnitude
        positivity
      rw [Nat.cast_zero, zero_mul] at hnear
      exact absurd hm (not_lt.mpr hnear)
    have hone : (1 : ℚ) ≤ n := by exact_mod_cast hpos
    have hpower : p ≤ 308 := by
      by_contra hgreat
      have hten : (10 : ℚ) ^ (309 : Int) ≤ 10 ^ p := zpow_le_zpow_right₀ (by norm_num) (by omega)
      have hnat : 36028797018963958 * 2 ^ 969 < 10 ^ 309 := by decide +kernel
      have hrat : (36028797018963958 : ℚ) * 2 ^ (969 : Int) < 10 ^ (309 : Int) := by
        exact_mod_cast hnat
      have hle : (10 : ℚ) ^ p ≤ n * 10 ^ p := le_mul_of_one_le_left (by positivity) hone
      exact absurd (hten.trans (hle.trans hvalue)) (not_le.mpr hrat)
    rcases hbeyond with hgreat | ⟨hup, hinfinite⟩
    · omega
    · obtain ⟨num, den, hden, hproduct, hfraction⟩ :=
        product_eq m e (powerOfTen p.toNat).1 (powerOfTen p.toNat).2
      have hten := (abs_le.mp (powerOfTen_near (k := p.toNat) (by omega))).2
      have hsame : (10 : ℚ) ^ p.toNat = 10 ^ p := by
        rw [← zpow_natCast, Int.toNat_of_nonneg hup]
      rw [hsame] at hten
      have hupper : magnitude (powerOfTen p.toNat).1 (powerOfTen p.toNat).2 ≤
          10 ^ p * (1 + 1 / 2 ^ 53) := by linarith
      have hsmall : (num : ℚ) / den < limit := by
        rw [hfraction]
        have hnonneg := magnitude_nonneg (powerOfTen p.toNat).1 (powerOfTen p.toNat).2
        calc magnitude m e * magnitude (powerOfTen p.toNat).1 (powerOfTen p.toNat).2
            ≤ n * (1 + 1 / 2 ^ 53) * (10 ^ p * (1 + 1 / 2 ^ 53)) := by gcongr
          _ = n * 10 ^ p * ((1 + 1 / 2 ^ 53) * (1 + 1 / 2 ^ 53)) := by ring
          _ ≤ 36028797018963958 * 2 ^ (969 : Int) * ((1 + 1 / 2 ^ 53) * (1 + 1 / 2 ^ 53)) := by
              gcongr
          _ < limit := rounded_lt_limit
      obtain ⟨m', e', heq, -⟩ := ofRatio_finite false num hden hsmall
      rw [hproduct, heq] at hinfinite
      cases hinfinite

/-- The shortest decimals of the two greatest numbers, which are no ties. -/
theorem digits_greatest (tie : Shortest.Tie) :
    digits tie 9007199254740990 971 = ⟨17976931348623155, 292⟩ ∧
      digits tie 9007199254740991 971 = ⟨17976931348623157, 292⟩ := by
  have hratio : ratio 1 (971 - 2) = (2 ^ 969, 1) := by decide +kernel
  constructor
  · refine Shortest.digits_of_lead (k := 308) (d := ⟨17976931348623155, 292⟩) (by decide) hratio
      (by decide +kernel) (by decide +kernel) ?_
    cases tie <;> decide +kernel
  · refine Shortest.digits_of_lead (k := 308) (d := ⟨17976931348623157, 292⟩) (by decide) hratio
      (by decide +kernel) (by decide +kernel) ?_
    cases tie <;> decide +kernel

/-- The digits of the two greatest numbers are read as the greatest one. -/
theorem scaled_greatest (negative : Bool) {n : Nat}
    (hn : n = 17976931348623155 ∨ n = 17976931348623157) :
    ∃ x, x.IsCanonical ∧ ∀ rest, scaled negative n 292 rest = .ok (.float x, rest) := by
  have hint : ofInt n = .finite false 8988465674311578 1 := by
    rcases hn with rfl | rfl <;> decide +kernel
  have hscale : scaleByTen 3 8988465674311578 1 292 =
      some (.finite false 9007199254740991 971) := by decide +kernel
  have hx : (Binary64.finite false 9007199254740991 971).IsCanonical :=
    ⟨false, _, _, rfl, by decide⟩
  unfold scaled
  simp only [hint, hscale]
  cases negative
  · exact ⟨_, hx, fun _ => rfl⟩
  · exact ⟨_, hx.neg, fun _ => rfl⟩

/-- The digits of every finite number are read as a finite number. -/
theorem scaled_shortest (negative : Bool) (hc : Canonical m e) :
    ∃ x, x.IsCanonical ∧ ∀ rest, scaled negative (layout (digits .even m e)).significand
      (layout (digits .even m e)).exponent rest = .ok (.float x, rest) := by
  obtain ⟨hdigits, -, -, hupper⟩ := Shortest.digits_spec .even hc
  obtain ⟨k, hsignificand, hexponent, hroom⟩ := Shortest.significand_layout (digits .even m e)
  rw [hsignificand, hexponent]
  by_cases hgreat : e = 971 ∧ 9007199254740990 ≤ m
  · obtain ⟨rfl, hm⟩ := hgreat
    have hmax : m < 9007199254740992 := hc.1
    -- a significand with zeros behind it would be too long
    have hk : ∀ n, digits .even m 971 = ⟨n, 292⟩ → 10 ^ 16 ≤ n → k = 0 := by
      intro n hd hlong
      rcases hroom with hzero | hlt
      · exact hzero
      · rw [hd] at hlt
        dsimp only at hlt
        by_contra hne
        have hten : 10 ^ 1 ≤ 10 ^ k := Nat.pow_le_pow_right (by decide) (Nat.pos_of_ne_zero hne)
        have : 10 ^ 16 * 10 ^ 1 ≤ n * 10 ^ k := Nat.mul_le_mul hlong hten
        omega
    have hm : m = 9007199254740990 ∨ m = 9007199254740991 := by omega
    rcases hm with rfl | rfl
    · obtain ⟨hdigits, -⟩ := digits_greatest .even
      rw [hdigits, hk _ hdigits (by decide)]
      exact scaled_greatest negative (Or.inl rfl)
    · obtain ⟨-, hdigits⟩ := digits_greatest .even
      rw [hdigits, hk _ hdigits (by decide)]
      exact scaled_greatest negative (Or.inr rfl)
  · have hlow : e ≤ 970 ∨ m ≤ 9007199254740989 := by
      have he : e ≤ 971 := hc.2.2.1
      omega
    refine scaled_below negative ?_ ?_
    · have hmax : maxSignificand = 18446744073709551615 := rfl
      rcases hroom with rfl | hlt
      · omega
      · omega
    · have hten : (10 : ℚ) ≠ 0 := by norm_num
      have hsame : (((digits .even m e).digits * 10 ^ k : Nat) : ℚ) *
          10 ^ ((digits .even m e).exponent - k) = (digits .even m e).value := by
        unfold Shortest.Decimal.value
        push_cast
        rw [zpow_sub₀ hten, zpow_natCast, mul_assoc, mul_div_cancel₀ _ (by positivity)]
      rw [hsame]
      exact hupper.trans (upper_end hc hlow)

end Json.Read

end TableFeed
