import TableFeed.Number.Shortest
import TableFeed.Proofs.Number.Layout
import TableFeed.Proofs.Number.Rounding

/-!
# The digits of the shortest decimal

How large the digits and the power of ten of `Shortest.digits` can be, and that the decimal does not
leave the interval of numbers that round to its number.

* **`leadingPower_spec`** — the power of ten of the leading digit lies between the right bounds.
* **`atCount_cases`** — a decimal with so many digits is at most the upper end of the interval.
* **`digits_spec`** — the crux: seventeen digits, powers of ten below 400, and the upper end, for
  every number of the format.
-/

namespace TableFeed.Shortest

open Binary64

/-- The value of a decimal. -/
def Decimal.value (d : Decimal) : ℚ :=
  d.digits * 10 ^ d.exponent

/-! ## The leading digit -/

/-- The digits of a whole number tell between which powers of ten it lies. -/
theorem length_bounds {n k : Nat} (hn : 0 < n) (h : (toString n).length = k + 1) :
    10 ^ k ≤ n ∧ n < 10 ^ (k + 1) := by
  rw [length_toString] at h
  refine ⟨?_, (Nat.length_toDigits_le_iff (by decide) (Nat.succ_pos k)).mp h.le⟩
  cases k with
  | zero => exact hn
  | succ k =>
    refine not_lt.mp fun hlt => ?_
    have := (Nat.length_toDigits_le_iff (by decide) (Nat.succ_pos k)).mpr hlt
    omega

theorem length_pos (n : Nat) : ∃ k, (toString n).length = k + 1 := by
  have hpos : 0 < (toString n).length := by
    rw [length_toString]
    exact Nat.length_toDigits_pos
  exact ⟨_, (Nat.succ_pred_eq_of_pos hpos).symm⟩

theorem leadingPower_spec {num den : Nat} (hn : 0 < num) (hd : 0 < den) :
    (10 : ℚ) ^ leadingPower num den ≤ (num : ℚ) / den ∧
      (num : ℚ) / den < 10 ^ (leadingPower num den + 1) := by
  have hnum : (0 : ℚ) < num := by exact_mod_cast hn
  have hden : (0 : ℚ) < den := by exact_mod_cast hd
  unfold leadingPower
  split
  · rename_i hle
    have hq : 0 < num / den := Nat.div_pos hle hd
    obtain ⟨k, hk⟩ := length_pos (num / den)
    obtain ⟨hlow, hhigh⟩ := length_bounds hq hk
    rw [hk]
    have hexp : ((k + 1 : Nat) : Int) - 1 = k := by push_cast; ring
    rw [hexp]
    constructor
    · rw [zpow_natCast, le_div_iff₀ hden]
      exact_mod_cast (Nat.le_div_iff_mul_le hd).mp hlow
    · have h := (div_lt_iff_fraction hd).mp hhigh
      exact_mod_cast h
  · rename_i hlt
    have hlt : num < den := not_le.mp hlt
    -- one less than the quotient rounded up is the quotient of one less
    have hquotient : (den + num - 1) / num - 1 = (den - 1) / num := by
      have hsum : den + num - 1 = den - 1 + num := by omega
      rw [hsum, Nat.add_div_right _ hn]
      rfl
    have hq : 0 < (den - 1) / num := Nat.div_pos (by omega) hn
    rw [hquotient]
    obtain ⟨k, hk⟩ := length_pos ((den - 1) / num)
    obtain ⟨hlow, hhigh⟩ := length_bounds hq hk
    rw [hk]
    have hsub : (((den - 1 : Nat)) : ℚ) = den - 1 := by
      rw [Nat.cast_sub hd, Nat.cast_one]
    constructor
    · -- the quotient is below the next power of ten, and so is the fraction's inverse
      have h : den - 1 < 10 ^ (k + 1) * num := (Nat.div_lt_iff_lt_mul hn).mp hhigh
      have h' : (den : ℚ) ≤ 10 ^ (k + 1) * num := by
        have hle : den ≤ 10 ^ (k + 1) * num := by omega
        exact_mod_cast hle
      rw [zpow_neg, zpow_natCast, le_div_iff₀ hden, inv_mul_le_iff₀ (by positivity)]
      exact h'
    · have h : 10 ^ k * num ≤ den - 1 := (Nat.le_div_iff_mul_le hn).mp hlow
      have h' : (10 : ℚ) ^ k * num < den := by
        have hlt : 10 ^ k * num < den := by omega
        exact_mod_cast hlt
      have hexp : -((k + 1 : Nat) : Int) + 1 = -(k : Int) := by push_cast; ring
      rw [hexp, zpow_neg, zpow_natCast, div_lt_iff₀ hden, lt_inv_mul_iff₀ (by positivity)]
      exact h'

/-- The power of ten of the leading digit of a whole number. -/
theorem leadingPower_eq {n k : Nat} (hlow : 10 ^ k ≤ n) (hhigh : n < 10 ^ (k + 1)) :
    leadingPower n 1 = k := by
  have hpos : 0 < n := Nat.lt_of_lt_of_le (Nat.pow_pos (by decide)) hlow
  obtain ⟨hlead₁, hlead₂⟩ := leadingPower_spec hpos Nat.one_pos
  rw [Nat.cast_one, div_one] at hlead₁ hlead₂
  have hten : (1 : ℚ) < 10 := by norm_num
  have hlow' : (10 : ℚ) ^ (k : Int) ≤ n := by exact_mod_cast hlow
  have hhigh' : (n : ℚ) < 10 ^ ((k : Int) + 1) := by exact_mod_cast hhigh
  have h₁ := (zpow_lt_zpow_iff_right₀ hten).mp (hlead₁.trans_lt hhigh')
  have h₂ := (zpow_lt_zpow_iff_right₀ hten).mp (hlow'.trans_lt hlead₂)
  omega

/-! ## A decimal with so many digits -/

/-- The grid of a decimal, as the fraction of a quarter of a unit. -/
theorem grid_eq (num : Nat) {den : Nat} (hd : 0 < den) (grid : Int) :
    let p := if 0 ≤ grid then (num, den * Nat.pow 10 grid.toNat)
      else (num * Nat.pow 10 (-grid).toNat, den)
    0 < p.2 ∧ (p.1 : ℚ) / p.2 = (num : ℚ) / den / 10 ^ grid := by
  intro p
  have hten : ∀ {e : Int}, 0 ≤ e → (10 : ℚ) ^ e.toNat = 10 ^ e := by
    intro e he
    rw [← zpow_natCast, Int.toNat_of_nonneg he]
  by_cases he : 0 ≤ grid
  · have hp : p = (num, den * Nat.pow 10 grid.toNat) := if_pos he
    rw [hp]
    refine ⟨Nat.mul_pos hd (Nat.pow_pos (by decide)), ?_⟩
    simp only [Nat.pow_eq, Nat.cast_mul, Nat.cast_pow, Nat.cast_ofNat]
    rw [hten he, div_div]
  · have hp : p = (num * Nat.pow 10 (-grid).toNat, den) := if_neg he
    rw [hp]
    refine ⟨hd, ?_⟩
    simp only [Nat.pow_eq, Nat.cast_mul, Nat.cast_pow, Nat.cast_ofNat]
    rw [hten (by omega), zpow_neg, div_eq_mul_inv ((num : ℚ) / den), mul_div_right_comm]

/-- A decimal that was found lies next to the number on its grid and does not lie above the interval.
-/
theorem atCount_cases {tie : Tie} {m low middle high num den : Nat} {power : Int} {count : Nat}
    {d : Decimal} (hd : 0 < den)
    (h : atCount tie m (low, middle, high) num den power count = some d) :
    d.exponent = power - count + 1 ∧
      (d.digits : ℚ) ≤ high * ((num : ℚ) / den / 10 ^ d.exponent) ∧
      ∀ k : Nat, (middle : ℚ) * ((num : ℚ) / den / 10 ^ d.exponent) < k → d.digits ≤ k := by
  unfold atCount at h
  dsimp only at h
  obtain ⟨hpos, hgrid⟩ := grid_eq num hd (power - count + 1)
  generalize (if 0 ≤ power - (count : Int) + 1 then _ else _ : Nat × Nat) = p at h hpos hgrid
  obtain ⟨n, b⟩ := p
  dsimp only at h hpos hgrid
  have hb : (0 : ℚ) < b := by exact_mod_cast hpos
  -- whichever of the two is taken, it is inside the interval and next to the number
  have hinside : ∀ x, (if m % 2 = 0 then decide (low * n ≤ x * b) && decide (x * b ≤ high * n)
      else decide (low * n < x * b) && decide (x * b < high * n)) = true → x * b ≤ high * n := by
    intro x hx
    split at hx
    · exact of_decide_eq_true (Bool.and_eq_true_iff.mp hx).2
    · exact (of_decide_eq_true (Bool.and_eq_true_iff.mp hx).2 : x * b < high * n).le
  have htaken : ∃ x, d = ⟨x, power - count + 1⟩ ∧ x * b ≤ high * n ∧ x ≤ middle * n / b + 1 := by
    split at h
    · cases h
    · rename_i hin _
      exact ⟨_, (Option.some.inj h).symm, hinside _ hin, Nat.le_succ _⟩
    · rename_i _ hin
      exact ⟨_, (Option.some.inj h).symm, hinside _ hin, le_refl _⟩
    · rename_i hbelow habove
      split at h
      · exact ⟨_, (Option.some.inj h).symm, hinside _ hbelow, Nat.le_succ _⟩
      · split at h
        · exact ⟨_, (Option.some.inj h).symm, hinside _ habove, le_refl _⟩
        · split at h
          · exact ⟨_, (Option.some.inj h).symm, hinside _ hbelow, Nat.le_succ _⟩
          · exact ⟨_, (Option.some.inj h).symm, hinside _ habove, le_refl _⟩
  obtain ⟨x, rfl, hhigh, hnext⟩ := htaken
  refine ⟨rfl, ?_, ?_⟩
  · show (x : ℚ) ≤ high * ((num : ℚ) / den / 10 ^ (power - count + 1))
    rw [← hgrid, ← mul_div_assoc, le_div_iff₀ hb]
    exact_mod_cast hhigh
  · intro k hk
    have hbelow : middle * n / b < k := by
      rw [div_lt_iff_fraction hpos]
      refine lt_of_eq_of_lt ?_ hk
      push_cast
      rw [mul_div_assoc, hgrid]
    exact hnext.trans hbelow

/-! ## Zeros at the end -/

theorem dropZeros_spec (fuel : Nat) (d : Decimal) :
    (dropZeros fuel d).value = d.value ∧ (dropZeros fuel d).digits ≤ d.digits ∧
      d.exponent ≤ (dropZeros fuel d).exponent ∧
      (dropZeros fuel d).exponent ≤ d.exponent + fuel := by
  induction fuel generalizing d with
  | zero =>
    refine ⟨rfl, le_refl _, le_refl _, ?_⟩
    show d.exponent ≤ d.exponent + ((0 : Nat) : Int)
    omega
  | succ fuel ih =>
    unfold dropZeros
    split
    · rename_i hzero
      obtain ⟨hvalue, hdigits, hlow, hhigh⟩ := ih ⟨d.digits / 10, d.exponent + 1⟩
      refine ⟨hvalue.trans ?_, hdigits.trans (Nat.div_le_self _ _), ?_, ?_⟩
      · have hten : (d.digits : ℚ) = (d.digits / 10 : Nat) * 10 := by
          have h : d.digits = d.digits / 10 * 10 := by omega
          exact_mod_cast h
        show ((d.digits / 10 : Nat) : ℚ) * 10 ^ (d.exponent + 1) = d.digits * 10 ^ d.exponent
        rw [hten, zpow_add_one₀ (by norm_num)]
        ring
      · dsimp only at hlow
        omega
      · dsimp only at hhigh
        push_cast
        omega
    · refine ⟨rfl, le_refl _, le_refl _, ?_⟩
      push_cast
      omega

/-! ## The shortest decimal -/

/-- A number of the format lies between these powers of ten. -/
theorem magnitude_bounds {m : Nat} {e : Int} (hm : 0 < m) (hc : Canonical m e) :
    (10 : ℚ) ^ (-330 : Int) < magnitude m e ∧ magnitude m e < 10 ^ (310 : Int) := by
  obtain ⟨hsmall, hleast, hgreatest, -⟩ := hc
  have hone : (1 : ℚ) ≤ m := by exact_mod_cast hm
  have hfull : (m : ℚ) < 2 ^ 53 := by
    simp only [Nat.pow_eq] at hsmall
    exact_mod_cast hsmall
  simp only [minExponent] at hleast
  simp only [maxExponent] at hgreatest
  unfold magnitude
  constructor
  · calc (10 : ℚ) ^ (-330 : Int) < 2 ^ (-1074 : Int) := by
          have h : 2 ^ 1074 < 10 ^ 330 := by decide +kernel
          rw [zpow_neg, zpow_neg, inv_lt_inv₀ (by positivity) (by positivity)]
          exact_mod_cast h
      _ ≤ 2 ^ e := zpow_le_zpow_right₀ (by norm_num) hleast
      _ ≤ m * 2 ^ e := le_mul_of_one_le_left (by positivity) hone
  · calc (m : ℚ) * 2 ^ e < 2 ^ 53 * 2 ^ e := by gcongr
      _ ≤ 2 ^ 53 * 2 ^ (971 : Int) := by
          have h : (2 : ℚ) ^ e ≤ 2 ^ (971 : Int) := zpow_le_zpow_right₀ (by norm_num) hgreatest
          gcongr
      _ < 10 ^ (310 : Int) := by
          have h : 2 ^ 53 * 2 ^ 971 < 10 ^ 310 := by decide +kernel
          exact_mod_cast h

/-- The number in quarters of its unit, when a quarter is a fraction of whole numbers. -/
theorem quarter_spec {m num den : Nat} {e : Int}
    (hunit : (num : ℚ) / den = magnitude 1 (e - 2)) :
    0 < num ∧ ((4 * m * num : Nat) : ℚ) / den = magnitude m e := by
  constructor
  · refine Nat.pos_of_ne_zero ?_
    rintro rfl
    have hpos : (0 : ℚ) < magnitude 1 (e - 2) := by
      unfold magnitude
      positivity
    rw [← hunit, Nat.cast_zero, zero_div] at hpos
    exact absurd hpos (lt_irrefl _)
  · push_cast
    rw [mul_div_assoc, hunit]
    unfold magnitude
    rw [zpow_sub₀ two_ne_zero]
    push_cast
    ring

/-- The power of ten of the leading digit of a number of the format. -/
theorem leadingPower_bounds {m num den : Nat} {e : Int} (hm : 0 < m) (hc : Canonical m e)
    (hden : 0 < den) (hunit : (num : ℚ) / den = magnitude 1 (e - 2)) :
    magnitude m e < 10 ^ (leadingPower (4 * m * num) den + 1) ∧
      -331 < leadingPower (4 * m * num) den ∧ leadingPower (4 * m * num) den < 310 := by
  obtain ⟨hnum, hvalue⟩ := quarter_spec (m := m) hunit
  have hfour : 0 < 4 * m * num := Nat.mul_pos (Nat.mul_pos (by decide) hm) hnum
  obtain ⟨hlead₁, hlead₂⟩ := leadingPower_spec hfour hden
  rw [hvalue] at hlead₁ hlead₂
  obtain ⟨hleast, hgreatest⟩ := magnitude_bounds hm hc
  have hten : (1 : ℚ) < 10 := by norm_num
  have hbelow := (zpow_lt_zpow_iff_right₀ hten).mp (hlead₁.trans_lt hgreatest)
  have habove := (zpow_lt_zpow_iff_right₀ hten).mp (hleast.trans hlead₂)
  exact ⟨hlead₂, by omega, hbelow⟩

/-- The digits and the power of ten of the shortest decimal, and the upper end of its interval. -/
theorem digits_spec (tie : Tie) {m : Nat} {e : Int} (hc : Canonical m e) :
    (digits tie m e).digits ≤ 10 ^ 17 ∧ -400 ≤ (digits tie m e).exponent ∧
      (digits tie m e).exponent ≤ 400 ∧
      (digits tie m e).value ≤ magnitude (4 * m + 2) (e - 2) := by
  have hzero : (⟨0, 0⟩ : Decimal).value ≤ magnitude (4 * m + 2) (e - 2) := by
    refine le_of_eq_of_le ?_ (magnitude_nonneg _ _)
    show ((0 : Nat) : ℚ) * 10 ^ (0 : Int) = 0
    simp
  unfold digits
  split
  · exact ⟨by norm_num, by norm_num, by norm_num, hzero⟩
  · rename_i hm
    have hm : 0 < m := Nat.pos_of_ne_zero hm
    obtain ⟨hden, hunit⟩ := ratio_eq 1 (e - 2)
    generalize ratio 1 (e - 2) = r at hden hunit ⊢
    obtain ⟨num, den⟩ := r
    dsimp only at hden hunit ⊢
    obtain ⟨-, hvalue⟩ := quarter_spec (m := m) hunit
    obtain ⟨hlead, hpower₁, hpower₂⟩ := leadingPower_bounds hm hc hden hunit
    generalize leadingPower (4 * m * num) den = power at hlead hpower₁ hpower₂ ⊢
    split
    · rename_i d hfound
      obtain ⟨i, hi, hat⟩ := List.exists_of_findSome?_eq_some hfound
      have hi : i < 17 := List.mem_range.mp hi
      obtain ⟨hexp, hhigh, hbelow⟩ := atCount_cases hden hat
      obtain ⟨hsame, hdigits, hlow, hup⟩ := dropZeros_spec 17 d
      rw [hunit] at hhigh hbelow
      have hd : d.digits ≤ 10 ^ (i + 1) := by
        refine hbelow _ ?_
        have hfour : ((4 * m : Nat) : ℚ) * (magnitude 1 (e - 2) / 10 ^ d.exponent) =
            magnitude m e / 10 ^ d.exponent := by
          rw [← hvalue, ← hunit]
          push_cast
          ring
        rw [hfour, div_lt_iff₀ (by positivity)]
        refine hlead.trans_eq ?_
        push_cast
        rw [← zpow_natCast, ← zpow_add₀ (by norm_num), hexp]
        congr 1
        push_cast
        ring
      refine ⟨?_, by omega, by omega, ?_⟩
      · calc (dropZeros 17 d).digits ≤ d.digits := hdigits
          _ ≤ 10 ^ (i + 1) := hd
          _ ≤ 10 ^ 17 := Nat.pow_le_pow_right (by decide) (by omega)
      · rw [hsame]
        have hpos : (0 : ℚ) < 10 ^ d.exponent := by positivity
        calc d.value ≤ ((4 * m + 2 : Nat) : ℚ) * (magnitude 1 (e - 2) / 10 ^ d.exponent) *
              10 ^ d.exponent := by
              unfold Decimal.value
              gcongr
          _ = magnitude (4 * m + 2) (e - 2) := by
              rw [mul_assoc, div_mul_cancel₀ _ hpos.ne']
              unfold magnitude
              push_cast
              ring
    · exact ⟨by norm_num, by norm_num, by norm_num, hzero⟩

/-- The shortest decimal of a large number, once its leading digit is known. -/
theorem digits_of_lead {tie : Tie} {m num k : Nat} {e : Int} {d : Decimal} (hm : m ≠ 0)
    (hratio : ratio 1 (e - 2) = (num, 1)) (hlow : 10 ^ k ≤ 4 * m * num)
    (hhigh : 4 * m * num < 10 ^ (k + 1))
    (hfound : ((List.range 17).findSome? fun i =>
      atCount tie m (quarters m e) num 1 k (i + 1)) = some d) :
    digits tie m e = dropZeros 17 d := by
  unfold digits
  rw [if_neg hm, hratio]
  dsimp only
  rw [leadingPower_eq hlow hhigh, hfound]

end TableFeed.Shortest
