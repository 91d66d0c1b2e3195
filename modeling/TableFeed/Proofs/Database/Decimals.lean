import Mathlib.Tactic.Linarith
import Mathlib.Tactic.Positivity
import Mathlib.Tactic.Ring
import TableFeed.Database.Numeric

/-!
# Decimals that are held

A magnitude is held if a mantissa of 96 bits and few enough digits behind the point suffice for it. Sums
and changes of the scale round what is not held, and nothing else.

* **`Held.of_add`** — the crux: what is left of a number that is held, cut off behind one of its places,
  is held.
* **`fit_of_held`**, **`addUnits_of_held`** — a sum that is held is not rounded.
* **`rescale_cases`** — the three ways in which a decimal is shown with another scale.
* **`rescale_bounds`** — what is shown fits again, with no more than the 28 digits computed with.
* **`rescale_of_held`** — it keeps its magnitude if that is held with the other scale.
-/

namespace TableFeed.Decimal96

/-! ## Magnitudes -/

/-- The magnitude of a decimal. -/
def magnitude (d : Decimal96) : ℚ :=
  d.mantissa / 10 ^ d.scale

/-- A decimal whose mantissa fits, and whose scale is one that is computed with. -/
def InFormat (d : Decimal96) : Prop :=
  d.mantissa < limit ∧ d.scale ≤ maxScale

/-- A magnitude with no more than so many digits behind the point. -/
def HasPlaces (places : ℕ) (y : ℚ) : Prop :=
  ∃ n : ℕ, y * 10 ^ places = n

/-- A magnitude that is held with no more than so many digits behind the point: with some number of
them, its mantissa fits. -/
def Held (places : ℕ) (y : ℚ) : Prop :=
  ∃ scale ≤ places, ∃ mantissa < limit, y * 10 ^ scale = mantissa

variable {p q n : ℕ} {y r : ℚ} {d : Decimal96}

theorem HasPlaces.mono (h : HasPlaces p y) (hpq : p ≤ q) : HasPlaces q y := by
  obtain ⟨n, hn⟩ := h
  refine ⟨n * 10 ^ (q - p), ?_⟩
  rw [← Nat.add_sub_of_le hpq, pow_add, ← mul_assoc, hn, Nat.add_sub_cancel_left]
  push_cast
  rfl

theorem HasPlaces.add (hy : HasPlaces p y) (hr : HasPlaces p r) : HasPlaces p (y + r) := by
  obtain ⟨n, hn⟩ := hy
  obtain ⟨m, hm⟩ := hr
  exact ⟨n + m, by rw [add_mul, hn, hm, Nat.cast_add]⟩

/-- Two numbers with the same places do not differ by less than the last of them. -/
theorem HasPlaces.eq_zero (hy : HasPlaces p y) (hsum : HasPlaces p (y + r)) (hr : 0 ≤ r)
    (hless : r * 10 ^ p < 1) : r = 0 := by
  obtain ⟨n, hn⟩ := hy
  obtain ⟨m, hm⟩ := hsum
  have hten : (0 : ℚ) < 10 ^ p := by positivity
  have hdiff : r * 10 ^ p = m - n := by
    rw [← hn, ← hm]
    ring
  -- the difference counts whole units of the last place, and it is less than one of them
  have hlow : n ≤ m := by
    have : (0 : ℚ) ≤ m - n := hdiff ▸ mul_nonneg hr hten.le
    exact_mod_cast sub_nonneg.mp this
  have hhigh : m < n + 1 := by
    have : (m : ℚ) - n < 1 := hdiff ▸ hless
    exact_mod_cast sub_lt_iff_lt_add'.mp this
  obtain rfl : m = n := by omega
  rw [sub_self] at hdiff
  exact (mul_eq_zero.mp hdiff).resolve_right hten.ne'

theorem Held.hasPlaces (h : Held p y) : HasPlaces p y := by
  obtain ⟨scale, hscale, n, -, hn⟩ := h
  exact HasPlaces.mono ⟨n, hn⟩ hscale

theorem Held.mono (h : Held p y) (hpq : p ≤ q) : Held q y := by
  obtain ⟨scale, hscale, hn⟩ := h
  exact ⟨scale, hscale.trans hpq, hn⟩

theorem hasPlaces_natCast (p n : ℕ) : HasPlaces p (n : ℚ) :=
  ⟨n * 10 ^ p, by push_cast; rfl⟩

/-- A whole number that is held is below the limit. -/
theorem Held.lt_limit (h : Held p (n : ℚ)) : n < limit := by
  obtain ⟨scale, -, m, hm, hvalue⟩ := h
  have hnat : n * 10 ^ scale = m := by exact_mod_cast hvalue
  exact lt_of_le_of_lt (hnat ▸ Nat.le_mul_of_pos_right n (Nat.pow_pos (by decide))) hm

/-- What is held with one more place needs it, or is held without it. -/
theorem Held.of_succ (h : Held (p + 1) y) (hlimit : ∀ n < limit, y * 10 ^ (p + 1) ≠ n) : Held p y := by
  obtain ⟨scale, hscale, n, hn, hy⟩ := h
  refine ⟨scale, Nat.le_of_lt_succ (lt_of_le_of_ne hscale ?_), n, hn, hy⟩
  rintro rfl
  exact hlimit n hn hy

/-- What is left of a number that is held, cut off behind one of its places, is held. -/
theorem Held.of_add (h : Held q (y + r)) (hy : HasPlaces p y) (hr : 0 ≤ r) (hless : r * 10 ^ p < 1) :
    Held q y := by
  obtain ⟨scale, hscale, n, hn, hsum⟩ := h
  rcases Nat.le_total scale p with hsp | hps
  · -- nothing is cut off
    have hzero := hy.eq_zero (HasPlaces.mono ⟨n, hsum⟩ hsp) hr hless
    rw [hzero, add_zero] at hsum
    exact ⟨scale, hscale, n, hn, hsum⟩
  · -- the mantissa loses its last digits, and zeros take their place
    obtain ⟨m, hm⟩ := hy.mono hps
    refine ⟨scale, hscale, m, lt_of_le_of_lt ?_ hn, hm⟩
    have hle : (m : ℚ) ≤ n := by
      rw [← hm, ← hsum]
      gcongr
      linarith
    exact_mod_cast hle

theorem magnitude_mul (d : Decimal96) : d.magnitude * 10 ^ d.scale = d.mantissa :=
  div_mul_cancel₀ _ (by positivity)

theorem InFormat.hasPlaces (hd : d.InFormat) : HasPlaces maxScale d.magnitude :=
  HasPlaces.mono ⟨d.mantissa, d.magnitude_mul⟩ hd.2

theorem InFormat.held (hd : d.InFormat) (hscale : d.scale ≤ p) : Held p d.magnitude :=
  ⟨d.scale, hscale, d.mantissa, hd.1, d.magnitude_mul⟩

/-! ## Sums -/

theorem divideEven_mul (n : ℕ) (hq : 0 < q) : divideEven (n * q) q = n := by
  unfold divideEven Binary64.roundQuotient
  rw [Nat.mul_div_cancel n hq, Nat.mul_mod_left]
  exact if_pos hq

/-- Digits that are all zero are cut off without rounding. -/
theorem divideEven_places {m drop : ℕ} (hn : y * 10 ^ (p + drop) = n) (hm : y * 10 ^ p = m) :
    divideEven n (Nat.pow 10 drop) = m := by
  have hsplit : n = m * 10 ^ drop := by
    rw [pow_add, ← mul_assoc, hm] at hn
    exact_mod_cast hn.symm
  rw [hsplit]
  exact divideEven_mul m (Nat.pow_pos (by decide))

/-- A mantissa and scale are found for a magnitude that is held, and they denote it. -/
theorem fit_of_held (drop : ℕ) (hn : y * 10 ^ (p + drop) = n) (h : Held p y) :
    ∃ m scale, fit p n drop = some (m, scale) ∧ m < limit ∧ scale ≤ p ∧ y * 10 ^ scale = m := by
  induction p generalizing drop with
  | zero =>
    obtain ⟨scale, hscale, m, hm, hy⟩ := h
    obtain rfl := Nat.le_zero.mp hscale
    rw [fit, divideEven_places hn hy, if_pos hm]
    exact ⟨m, 0, rfl, hm, Nat.le_refl 0, hy⟩
  | succ p ih =>
    obtain ⟨m, hm⟩ := h.hasPlaces
    rw [fit, divideEven_places hn hm]
    by_cases hfits : m < limit
    · rw [if_pos hfits]
      exact ⟨m, p + 1, rfl, hfits, Nat.le_refl _, hm⟩
    · -- the mantissa with this place does not fit, so the magnitude is held without it
      have hless : Held p y := h.of_succ fun k hk hy => by
        obtain rfl : m = k := by exact_mod_cast hm.symm.trans hy
        exact hfits hk
      obtain ⟨m', scale, hfit, hm', hscale, hy⟩ := ih (drop + 1) (by rw [← hn]; ring) hless
      rw [if_neg hfits]
      exact ⟨m', scale, hfit, hm', hscale.trans (Nat.le_succ p), hy⟩

theorem fit_bounds {drop m scale : ℕ} (h : fit p n drop = some (m, scale)) :
    m < limit ∧ scale ≤ p := by
  induction p generalizing drop with
  | zero =>
    rw [fit] at h
    split at h
    · rename_i hfits
      obtain ⟨rfl, rfl⟩ := Prod.mk.inj (Option.some.inj h)
      exact ⟨hfits, Nat.le_refl 0⟩
    · cases h
  | succ p ih =>
    rw [fit] at h
    split at h
    · rename_i hfits
      obtain ⟨rfl, rfl⟩ := Prod.mk.inj (Option.some.inj h)
      exact ⟨hfits, Nat.le_refl _⟩
    · exact ⟨(ih h).1, (ih h).2.trans (Nat.le_succ p)⟩

theorem addUnits_inFormat {d' : Decimal96} (h : d.addUnits n = some d') : d'.InFormat := by
  obtain ⟨⟨m, scale⟩, hfit, rfl⟩ := Option.map_eq_some_iff.mp h
  exact fit_bounds hfit

theorem addUnits_of_held (hd : d.InFormat) (h : Held maxScale (d.magnitude + n / 10 ^ maxScale)) :
    ∃ d', d.addUnits n = some d' ∧ d'.InFormat ∧ d'.magnitude = d.magnitude + n / 10 ^ maxScale := by
  have htotal : (d.magnitude + n / 10 ^ maxScale) * 10 ^ (maxScale + 0) =
      (d.mantissa * Nat.pow 10 (maxScale - d.scale) + n : ℕ) := by
    have hten : (10 : ℚ) ^ maxScale = 10 ^ d.scale * 10 ^ (maxScale - d.scale) := by
      rw [← pow_add, Nat.add_sub_of_le hd.2]
    rw [Nat.add_zero, add_mul, div_mul_cancel₀ _ (by positivity), hten, ← mul_assoc,
      d.magnitude_mul, Nat.pow_eq]
    push_cast
    rfl
  obtain ⟨m, scale, hfit, hm, hscale, hvalue⟩ := fit_of_held 0 htotal h
  refine ⟨{ d with mantissa := m, scale }, ?_, ⟨hm, hscale⟩, ?_⟩
  · unfold addUnits
    dsimp only
    rw [hfit]
    rfl
  · show (m : ℚ) / 10 ^ scale = _
    rw [← hvalue, mul_div_cancel_right₀ _ (by positivity)]

/-! ## The scale that is shown -/

theorem widen_magnitude (n : ℕ) (d : Decimal96) : (widen n d).magnitude = d.magnitude := by
  induction n generalizing d with
  | zero => rfl
  | succ n ih =>
    rw [widen]
    split
    · rw [ih]
      unfold magnitude
      dsimp only
      rw [pow_succ]
      push_cast
      rw [mul_comm, mul_div_mul_right _ _ (by norm_num)]
    · rfl

theorem widen_lt (n : ℕ) (hd : d.mantissa < limit) : (widen n d).mantissa < limit := by
  induction n generalizing d with
  | zero => exact hd
  | succ n ih =>
    rw [widen]
    split
    · rename_i hfits
      exact ih hfits
    · exact hd

theorem widen_scale_le (n : ℕ) (d : Decimal96) : (widen n d).scale ≤ d.scale + n := by
  induction n generalizing d with
  | zero => exact Nat.le_refl _
  | succ n ih =>
    rw [widen]
    split
    · exact (ih _).trans_eq (by dsimp only; omega)
    · exact Nat.le_add_right _ _

theorem widen_negative (n : ℕ) (d : Decimal96) : (widen n d).negative = d.negative := by
  induction n generalizing d with
  | zero => rfl
  | succ n ih =>
    rw [widen]
    split
    · rw [ih]
    · rfl

/-- A decimal is shown as a zero, with fewer digits or with more of them. -/
theorem rescale_cases (d : Decimal96) (scale : ℕ) :
    (d.mantissa = 0 ∧ d.rescale scale = { d with scale := min scale maxScale }) ∨
    (d.mantissa ≠ 0 ∧ min scale maxScale < d.scale ∧ d.rescale scale =
      { d with
        mantissa := (2 * d.mantissa + 10 ^ (d.scale - min scale maxScale)) /
          (2 * 10 ^ (d.scale - min scale maxScale))
        scale := min scale maxScale }) ∨
    (d.scale ≤ min scale maxScale ∧
      d.rescale scale = widen (min scale maxScale - d.scale) d) := by
  unfold rescale
  dsimp only
  by_cases hzero : d.mantissa = 0
  · rw [if_pos hzero]
    exact .inl ⟨hzero, rfl⟩
  · rw [if_neg hzero]
    by_cases hless : min scale maxScale < d.scale
    · rw [if_pos hless]
      exact .inr (.inl ⟨hzero, hless, rfl⟩)
    · rw [if_neg hless]
      exact .inr (.inr ⟨not_lt.mp hless, rfl⟩)

theorem rescale_negative (d : Decimal96) (scale : ℕ) : (d.rescale scale).negative = d.negative := by
  obtain ⟨-, heq⟩ | ⟨-, -, heq⟩ | ⟨-, heq⟩ := rescale_cases d scale
  · rw [heq]
  · rw [heq]
  · rw [heq, widen_negative]

/-- What is shown fits, and has no more digits behind the point than are asked for or computed with. -/
theorem rescale_bounds (hd : d.InFormat) (scale : ℕ) :
    (d.rescale scale).mantissa < limit ∧ (d.rescale scale).scale ≤ min scale maxScale := by
  obtain ⟨-, heq⟩ | ⟨hne, hless, heq⟩ | ⟨hmore, heq⟩ := rescale_cases d scale
  · rw [heq]
    exact ⟨hd.1, Nat.le_refl _⟩
  · -- rounding digits away makes the mantissa no greater
    rw [heq]
    refine ⟨lt_of_le_of_lt (Nat.div_le_of_le_mul ?_) hd.1, Nat.le_refl _⟩
    have hunit : 10 ^ 1 ≤ 10 ^ (d.scale - min scale maxScale) :=
      Nat.pow_le_pow_right (by decide) (by omega)
    nlinarith [Nat.pos_of_ne_zero hne]
  · rw [heq]
    exact ⟨widen_lt _ hd.1, (widen_scale_le _ d).trans_eq (Nat.add_sub_of_le hmore)⟩

/-- What is held with the scale that is shown is shown exactly. -/
theorem rescale_of_held {scale : ℕ} (h : Held (min scale maxScale) d.magnitude) :
    (d.rescale scale).magnitude = d.magnitude := by
  obtain ⟨hzero, heq⟩ | ⟨-, hless, heq⟩ | ⟨-, heq⟩ := rescale_cases d scale
  · rw [heq]
    unfold magnitude
    dsimp only
    rw [hzero, Nat.cast_zero, zero_div, zero_div]
  · generalize min scale maxScale = shown at h hless heq
    obtain ⟨n, hn⟩ := h.hasPlaces
    have hmantissa : d.mantissa = n * 10 ^ (d.scale - shown) := by
      have hvalue := d.magnitude_mul
      rw [← Nat.add_sub_of_le hless.le, pow_add, ← mul_assoc, hn] at hvalue
      exact_mod_cast hvalue.symm
    have hunit : 0 < 10 ^ (d.scale - shown) := Nat.pow_pos (by decide)
    -- the digits that are rounded away are zeros
    have hquotient : (2 * d.mantissa + 10 ^ (d.scale - shown)) / (2 * 10 ^ (d.scale - shown)) = n := by
      rw [hmantissa, ← mul_assoc, ← Nat.succ_mul, Nat.mul_div_mul_right _ _ hunit]
      omega
    rw [heq, hquotient]
    exact (eq_div_of_mul_eq (by positivity) hn).symm
  · rw [heq, widen_magnitude]

end TableFeed.Decimal96
