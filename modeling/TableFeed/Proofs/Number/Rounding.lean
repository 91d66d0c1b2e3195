import Mathlib.Algebra.Order.Field.Power
import Mathlib.Data.Rat.Cast.Order
import Mathlib.Data.Nat.Log
import Mathlib.Tactic.FieldSimp
import Mathlib.Tactic.GCongr
import Mathlib.Tactic.Linarith
import Mathlib.Tactic.NormNum
import Mathlib.Tactic.Positivity
import Mathlib.Tactic.Ring
import TableFeed.Number.Binary64

/-!
# Rounding to the format

What `Binary64.ofRatio` gives for a positive fraction, as far as readers of numbers need it: a number
of the format, how far it may be from the fraction, and when there is none.

* **`exponentFor_spec`** — the exponent leaves 53 bits in front of the point, or is the least one.
* **`ofRatio_cases`** — the crux: rounding gives a number of the format at most half a unit of its
  significand away, or an infinity for a fraction from the middle above the greatest finite number.
* **`ofRatio_finite`**, **`ofRatio_near`** — what is used of it: below that middle the result is
  finite, and above the subnormal numbers it is off by at most one part in `2 ^ 53`.
-/

namespace TableFeed.Binary64

/-- The magnitude of a finite number. -/
def magnitude (m : Nat) (e : Int) : ℚ :=
  m * 2 ^ e

/-- The middle between the greatest finite number and the power of two above it. -/
def limit : ℚ :=
  (2 ^ 53 - 1 / 2) * 2 ^ (971 : Int)

theorem magnitude_nonneg (m : Nat) (e : Int) : 0 ≤ magnitude m e := by
  unfold magnitude
  positivity

theorem pow_toNat {e : Int} (h : 0 ≤ e) : (2 : ℚ) ^ e.toNat = 2 ^ e := by
  rw [← zpow_natCast, Int.toNat_of_nonneg h]

/-- The fraction of a finite number is its magnitude. -/
theorem ratio_eq (m : Nat) (e : Int) :
    0 < (ratio m e).2 ∧ ((ratio m e).1 : ℚ) / (ratio m e).2 = magnitude m e := by
  unfold ratio magnitude
  split
  · rename_i he
    refine ⟨Nat.one_pos, ?_⟩
    simp only [Nat.pow_eq, Nat.cast_mul, Nat.cast_pow, Nat.cast_ofNat, Nat.cast_one, div_one]
    rw [pow_toNat he]
  · rename_i he
    have hneg : 0 ≤ -e := by omega
    refine ⟨Nat.pow_pos (by decide), ?_⟩
    simp only [Nat.pow_eq, Nat.cast_pow, Nat.cast_ofNat]
    rw [pow_toNat hneg, zpow_neg, div_inv_eq_mul]

variable {num den : Nat}

theorem unscale_eq (num : Nat) (hd : 0 < den) (e : Int) : 0 < (unscale num den e).2 ∧
    ((unscale num den e).1 : ℚ) / (unscale num den e).2 = (num : ℚ) / den / 2 ^ e := by
  unfold unscale
  split
  · rename_i he
    refine ⟨Nat.mul_pos hd (Nat.pow_pos (by decide)), ?_⟩
    simp only [Nat.pow_eq, Nat.cast_mul, Nat.cast_pow, Nat.cast_ofNat]
    rw [pow_toNat he, div_div]
  · rename_i he
    have hneg : 0 ≤ -e := by omega
    refine ⟨hd, ?_⟩
    simp only [Nat.pow_eq, Nat.cast_mul, Nat.cast_pow, Nat.cast_ofNat]
    rw [pow_toNat hneg, zpow_neg, div_eq_mul_inv ((num : ℚ) / den), mul_div_right_comm]

/-! ## The exponent -/

/-- A fraction between two powers of two, by the logarithms of its parts. -/
theorem log_bounds (hn : 0 < num) (hd : 0 < den) :
    (2 : ℚ) ^ ((num.log2 : Int) - den.log2 - 1) < (num : ℚ) / den ∧
      (num : ℚ) / den < 2 ^ ((num.log2 : Int) - den.log2 + 1) := by
  have hden : (0 : ℚ) < den := by exact_mod_cast hd
  have hnum₁ : (2 : ℚ) ^ (num.log2 : Int) ≤ num := by
    rw [zpow_natCast]
    exact_mod_cast Nat.log2_self_le (Nat.pos_iff_ne_zero.mp hn)
  have hnum₂ : (num : ℚ) < 2 ^ ((num.log2 : Int) + 1) := by
    have h : num < 2 ^ (num.log2 + 1) := Nat.lt_log2_self
    exact_mod_cast h
  have hden₁ : (2 : ℚ) ^ (den.log2 : Int) ≤ den := by
    rw [zpow_natCast]
    exact_mod_cast Nat.log2_self_le (Nat.pos_iff_ne_zero.mp hd)
  have hden₂ : (den : ℚ) < 2 ^ ((den.log2 : Int) + 1) := by
    have h : den < 2 ^ (den.log2 + 1) := Nat.lt_log2_self
    exact_mod_cast h
  constructor
  · rw [lt_div_iff₀ hden]
    calc (2 : ℚ) ^ ((num.log2 : Int) - den.log2 - 1) * den
        < 2 ^ ((num.log2 : Int) - den.log2 - 1) * 2 ^ ((den.log2 : Int) + 1) := by gcongr
      _ = 2 ^ (num.log2 : Int) := by
        rw [← zpow_add₀ two_ne_zero]
        congr 1
        ring
      _ ≤ num := hnum₁
  · rw [div_lt_iff₀ hden]
    calc (num : ℚ) < 2 ^ ((num.log2 : Int) + 1) := hnum₂
      _ = 2 ^ ((num.log2 : Int) - den.log2 + 1) * 2 ^ (den.log2 : Int) := by
        rw [← zpow_add₀ two_ne_zero]
        congr 1
        ring
      _ ≤ 2 ^ ((num.log2 : Int) - den.log2 + 1) * den := by gcongr

/-- The quotient of whole numbers is below a bound exactly when the fraction is. -/
theorem div_lt_iff_fraction {n d k : Nat} (hd : 0 < d) : n / d < k ↔ (n : ℚ) / d < k := by
  have hpos : (0 : ℚ) < d := by exact_mod_cast hd
  rw [Nat.div_lt_iff_lt_mul hd, div_lt_iff₀ hpos]
  exact_mod_cast Iff.rfl

theorem exponentFor_spec (hn : 0 < num) (hd : 0 < den) :
    minExponent ≤ exponentFor num den ∧
      (num : ℚ) / den / 2 ^ exponentFor num den < 2 ^ 53 ∧
      (2 ^ 52 ≤ (num : ℚ) / den / 2 ^ exponentFor num den ∨
        exponentFor num den = minExponent) := by
  have hlogs := log_bounds hn hd
  have hstep : ∀ {x : ℚ} {k : Nat} {e : Int}, 2 ^ k ≤ x / 2 ^ e ↔ (2 : ℚ) ^ ((k : Int) + e) ≤ x := by
    intro x k e
    rw [le_div_iff₀ (by positivity), zpow_add₀ two_ne_zero, zpow_natCast]
  have hstep' : ∀ {x : ℚ} {k : Nat} {e : Int}, x / 2 ^ e < 2 ^ k ↔ x < (2 : ℚ) ^ ((k : Int) + e) := by
    intro x k e
    rw [div_lt_iff₀ (by positivity), zpow_add₀ two_ne_zero, zpow_natCast]
  -- the exponent before the format's least one is taken into account
  have hfull : ∃ e : Int, exponentFor num den = max minExponent e ∧
      (num : ℚ) / den < 2 ^ (53 + e) ∧ (2 : ℚ) ^ (52 + e) ≤ (num : ℚ) / den := by
    unfold exponentFor
    dsimp only
    generalize (num.log2 : Int) - den.log2 = k at hlogs ⊢
    obtain ⟨hlow, hhigh⟩ := hlogs
    obtain ⟨hd', hscaled⟩ := unscale_eq num hd (k - 53)
    split
    · rename_i hsmall
      refine ⟨_, rfl, ?_, ?_⟩
      · have h := (div_lt_iff_fraction hd').mp hsmall
        rw [hscaled] at h
        exact hstep'.mp (by exact_mod_cast h)
      · refine le_of_eq_of_le ?_ hlow.le
        congr 1
        ring
    · rename_i hlarge
      refine ⟨_, rfl, ?_, ?_⟩
      · refine lt_of_lt_of_eq hhigh ?_
        congr 1
        ring
      · have h := not_lt.mp (mt (div_lt_iff_fraction hd').mpr hlarge)
        rw [hscaled] at h
        have h' := hstep.mp (show (2 : ℚ) ^ 53 ≤ _ by exact_mod_cast h)
        refine le_of_eq_of_le ?_ h'
        congr 1
        push_cast
        ring
  obtain ⟨e, he, hupper, hlower⟩ := hfull
  rw [he]
  refine ⟨le_max_left _ _, hstep'.mpr (lt_of_lt_of_le hupper ?_), ?_⟩
  · refine zpow_le_zpow_right₀ (by norm_num) ?_
    have := le_max_right minExponent e
    push_cast
    omega
  · rcases le_total minExponent e with h | h
    · rw [max_eq_right h]
      exact Or.inl (hstep.mpr (by exact_mod_cast hlower))
    · exact Or.inr (max_eq_left h)

/-! ## The significand -/

/-- A fraction is at most half away from the whole number it is rounded to. -/
theorem roundQuotient_near (num : Nat) (hd : 0 < den) :
    |(roundQuotient num den : ℚ) - (num : ℚ) / den| ≤ 1 / 2 := by
  have hpos : (0 : ℚ) < den := by exact_mod_cast hd
  have hsplit : (num : ℚ) = den * (num / den : Nat) + (num % den : Nat) := by
    exact_mod_cast (Nat.div_add_mod num den).symm
  have hrest : (num % den : Nat) < (den : ℚ) := by exact_mod_cast Nat.mod_lt num hd
  have hfraction : (num : ℚ) / den = (num / den : Nat) + (num % den : Nat) / (den : ℚ) := by
    rw [div_eq_iff hpos.ne', add_mul, div_mul_cancel₀ _ hpos.ne', mul_comm]
    exact hsplit
  rw [hfraction]
  unfold roundQuotient
  dsimp only
  generalize num / den = q at *
  generalize num % den = r at *
  have hzero : (0 : ℚ) ≤ r := by positivity
  have hdown : 2 * r ≤ den → |(q : ℚ) - (q + r / den)| ≤ 1 / 2 := by
    intro h
    have h' : (2 : ℚ) * r ≤ den := by exact_mod_cast h
    have hhalf : (r : ℚ) / den ≤ 1 / 2 := by
      rw [div_le_div_iff₀ hpos two_pos]
      linarith
    have hnonneg : 0 ≤ (r : ℚ) / den := by positivity
    rw [abs_le]
    constructor <;> linarith
  have hup : den ≤ 2 * r → |((q + 1 : Nat) : ℚ) - (q + r / den)| ≤ 1 / 2 := by
    intro h
    have h' : (den : ℚ) ≤ 2 * r := by exact_mod_cast h
    have hhalf : 1 / 2 ≤ (r : ℚ) / den := by
      rw [div_le_div_iff₀ two_pos hpos]
      linarith
    have hone : (r : ℚ) / den ≤ 1 := (div_le_one hpos).mpr hrest.le
    rw [abs_le]
    push_cast
    constructor <;> linarith
  split
  · rename_i h
    exact hdown h.le
  · rename_i hge
    split
    · rename_i h
      exact hup h.le
    · rename_i hle
      split
      · exact hdown (not_lt.mp hle)
      · exact hup (not_lt.mp hge)

/-! ## Rounding -/

section

-- `q` is a fraction in units of `2 ^ e`, and `m` the whole number of units next to it
variable {q : ℚ} {m : Nat} {e : Int}

/-- Half a unit in the significand is half a unit in the number. -/
theorem magnitude_near (h : |(m : ℚ) - q| ≤ 1 / 2) (e : Int) :
    |magnitude m e - q * 2 ^ e| ≤ 2 ^ e / 2 := by
  have hpow : (0 : ℚ) < 2 ^ e := by positivity
  rw [magnitude, ← sub_mul, abs_mul, abs_of_pos hpow]
  calc |(m : ℚ) - q| * 2 ^ e ≤ 1 / 2 * 2 ^ e := by gcongr
    _ = 2 ^ e / 2 := by ring

theorem significand_le (h : |(m : ℚ) - q| ≤ 1 / 2) (hq : q < 2 ^ 53) : m ≤ 2 ^ 53 := by
  have hbounds := abs_le.mp h
  have hm : (m : ℚ) < (2 ^ 53 + 1 : Nat) := by
    push_cast
    linarith
  have hm' : m < 2 ^ 53 + 1 := by exact_mod_cast hm
  omega

theorem le_significand (h : |(m : ℚ) - q| ≤ 1 / 2) (hq : 2 ^ 52 ≤ q) : 2 ^ 52 ≤ m := by
  have hbounds := abs_le.mp h
  have hm : ((2 ^ 52 : Nat) : ℚ) < (m + 1 : Nat) := by
    push_cast
    linarith
  have hm' : 2 ^ 52 < m + 1 := by exact_mod_cast hm
  omega

/-- A significand that is too long by one bit is carried over into the exponent. -/
theorem magnitude_carry (e : Int) :
    magnitude (Nat.pow 2 52) (e + 1) = magnitude (Nat.pow 2 53) e := by
  unfold magnitude
  rw [zpow_add₀ two_ne_zero]
  simp only [Nat.pow_eq, Nat.cast_pow, Nat.cast_ofNat, zpow_one]
  ring

/-- A significand carried over at the greatest exponent comes from a fraction beyond the limit. -/
theorem limit_le_carried (he : (971 : Int) ≤ e) (hq : (2 : ℚ) ^ 53 - 1 / 2 ≤ q) :
    limit ≤ q * 2 ^ e := by
  have hexp : (2 : ℚ) ^ (971 : Int) ≤ 2 ^ e := zpow_le_zpow_right₀ (by norm_num) he
  unfold limit
  gcongr

/-- A full significand at a greater exponent comes from one too. -/
theorem limit_le_above (he : (972 : Int) ≤ e) (hq : (2 : ℚ) ^ 52 ≤ q) : limit ≤ q * 2 ^ e := by
  have hexp : (2 : ℚ) ^ (972 : Int) ≤ 2 ^ e := zpow_le_zpow_right₀ (by norm_num) he
  have hdouble : (2 : ℚ) ^ (972 : Int) = 2 ^ (971 : Int) * 2 := by
    rw [← zpow_add_one₀ two_ne_zero]
    norm_num
  calc limit ≤ 2 ^ 52 * 2 ^ (972 : Int) := by
        have hp : (0 : ℚ) < 2 ^ (971 : Int) := by positivity
        rw [limit, hdouble]
        generalize (2 : ℚ) ^ (971 : Int) = p at hp ⊢
        norm_num
        linarith
    _ ≤ q * 2 ^ e := by gcongr

end

/-- Rounding gives a number of the format at most half a unit away, or an infinity for a fraction
that is large enough. -/
theorem ofRatio_cases (negative : Bool) (hn : 0 < num) (hd : 0 < den) :
    (∃ m e, ofRatio negative num den = .finite negative m e ∧ Canonical m e ∧
      |magnitude m e - (num : ℚ) / den| ≤ 2 ^ exponentFor num den / 2) ∨
    (ofRatio negative num den = .infinite negative ∧ limit ≤ (num : ℚ) / den) := by
  obtain ⟨hleast, hupper, hlower⟩ := exponentFor_spec hn hd
  unfold ofRatio
  rw [if_neg (Nat.pos_iff_ne_zero.mp hn)]
  dsimp only
  generalize exponentFor num den = e at hleast hupper hlower ⊢
  obtain ⟨hd', hscaled⟩ := unscale_eq num hd e
  have hnear := roundQuotient_near (unscale num den e).1 hd'
  rw [hscaled] at hnear
  generalize roundQuotient (unscale num den e).1 (unscale num den e).2 = m at hnear ⊢
  have hpow : (0 : ℚ) < 2 ^ e := by positivity
  have hback : (num : ℚ) / den = (num : ℚ) / den / 2 ^ e * 2 ^ e :=
    (div_mul_cancel₀ _ hpow.ne').symm
  generalize (num : ℚ) / den / 2 ^ e = q at hupper hlower hnear hback
  have hdistance := magnitude_near hnear e
  have hm := significand_le hnear hupper
  rw [hback]
  by_cases hcarry : m = Nat.pow 2 53
  · rw [if_pos hcarry]
    dsimp only
    split
    · rename_i hover
      simp only [maxExponent] at hover
      have hfull : (m : ℚ) = 2 ^ 53 := by
        rw [hcarry]
        norm_num
      exact .inr ⟨rfl, limit_le_carried (by omega) (by linarith [(abs_le.mp hnear).2])⟩
    · refine .inl ⟨_, _, rfl, ⟨by decide, by omega, by omega, Or.inl (le_refl _)⟩, ?_⟩
      rw [magnitude_carry, ← hcarry]
      exact hdistance
  · rw [if_neg hcarry]
    dsimp only
    split
    · rename_i hover
      simp only [maxExponent] at hover
      have hq : (2 : ℚ) ^ 52 ≤ q := by
        refine hlower.resolve_right fun h => ?_
        simp only [minExponent] at h
        omega
      exact .inr ⟨rfl, limit_le_above (by omega) hq⟩
    · rename_i hfit
      have hlt : m < Nat.pow 2 53 := lt_of_le_of_ne hm hcarry
      exact .inl ⟨m, e, rfl, ⟨hlt, hleast, not_lt.mp hfit, hlower.imp_left (le_significand hnear)⟩,
        hdistance⟩

/-- Below the middle above the greatest finite number the result is finite. -/
theorem ofRatio_finite (negative : Bool) (num : Nat) (hd : 0 < den)
    (h : (num : ℚ) / den < limit) :
    ∃ m e, ofRatio negative num den = .finite negative m e ∧ Canonical m e := by
  by_cases hn : num = 0
  · exact ⟨0, minExponent, if_pos hn, by decide⟩
  · rcases ofRatio_cases negative (Nat.pos_of_ne_zero hn) hd with ⟨m, e, heq, hc, -⟩ | ⟨-, hlarge⟩
    · exact ⟨m, e, heq, hc⟩
    · exact absurd h (not_lt.mpr hlarge)

/-- Above the subnormal numbers the result is off by at most one part in `2 ^ 53`. -/
theorem ofRatio_near {negative s : Bool} {m : Nat} {e : Int} (hd : 0 < den)
    (hnormal : (2 : ℚ) ^ (-1022 : Int) ≤ (num : ℚ) / den)
    (h : ofRatio negative num den = .finite s m e) :
    |magnitude m e - (num : ℚ) / den| ≤ (num : ℚ) / den / 2 ^ 53 := by
  have hn : 0 < num := by
    refine Nat.pos_of_ne_zero ?_
    rintro rfl
    have hpos : (0 : ℚ) < 2 ^ (-1022 : Int) := by positivity
    rw [Nat.cast_zero, zero_div] at hnormal
    exact absurd hnormal (not_le.mpr hpos)
  rcases ofRatio_cases negative hn hd with ⟨m', e', heq, -, hnear⟩ | ⟨heq, -⟩
  · obtain ⟨rfl, rfl, rfl⟩ := Binary64.finite.inj (h.symm.trans heq)
    refine hnear.trans ?_
    -- the unit is at most one part in `2 ^ 52`, since the significand is full
    have hunit : 2 ^ 52 * (2 : ℚ) ^ exponentFor num den ≤ (num : ℚ) / den := by
      obtain ⟨-, -, hfull | hleast⟩ := exponentFor_spec hn hd
      · exact (le_div_iff₀ (by positivity)).mp hfull
      · rw [hleast]
        refine le_of_eq_of_le ?_ hnormal
        rw [← zpow_natCast, ← zpow_add₀ two_ne_zero]
        norm_num [minExponent]
    rw [div_le_div_iff₀ two_pos (by positivity)]
    calc (2 : ℚ) ^ exponentFor num den * 2 ^ 53
        = 2 ^ 52 * 2 ^ exponentFor num den * 2 := by ring
      _ ≤ (num : ℚ) / den * 2 := by gcongr
  · rw [heq] at h
    cases h

end TableFeed.Binary64
