import TableFeed.Proofs.Number.Numeral

/-!
# Plain texts of numbers

A whole number and the positional text of a floating-point number are numerals, so both are read back as
numbers. What is read from a positional text is the decimal that it shows, which need not be the number
itself; but no decimal of a finite number reaches the middle above the greatest one, so it is finite too.

* **`unsigned?_digits`** — digits with a point among them are read as what they denote.
* **`parse?_of_integer`** — a whole number is a numeral without an exponent.
* **`pointed_value`** — the digits in front of the point and behind it denote the decimal.
* **`parse?_positional`** — so the positional text of a decimal denotes it.
* **`value_lt_limit`** — the crux: a shortest decimal is below the limit of the format.
* **`ofDecimal_finite`**, **`plain_finite`** — so the text of a finite number denotes a finite number.
-/

namespace TableFeed

open Shortest.Layout (fractionText)

/-! ## Texts of digits -/

namespace Digits

theorem toNat_eq (cs : List Char) : toNat cs = Nat.ofDigitChars 10 cs 0 :=
  rfl

theorem natural?_digits {ds : List Char} (hne : ds ≠ []) (hds : ∀ c ∈ ds, c.isDigit = true) :
    natural? ds = some (toNat ds) :=
  if_pos ⟨hne, List.all_eq_true.mpr hds⟩

theorem natural?_toDigits (n : Nat) : natural? (Nat.toDigits 10 n) = some n := by
  rw [natural?_digits Nat.toDigits_ne_nil Shortest.isDigit_toDigits, toNat_eq,
    Nat.ofDigitChars_ten_toDigits]

theorem span_digits {ds rest : List Char} (hds : ∀ c ∈ ds, c.isDigit = true)
    (hrest : ∀ c ∈ rest.head?, c.isDigit = false) : span (ds ++ rest) = (ds, rest) := by
  have htake : rest.takeWhile Char.isDigit = [] := by
    cases rest with
    | nil => rfl
    | cons c rest => exact List.takeWhile_cons_of_neg (by simp [hrest c rfl])
  have hdrop : rest.dropWhile Char.isDigit = rest := by
    cases rest with
    | nil => rfl
    | cons c rest => exact List.dropWhile_cons_of_neg (by simp [hrest c rfl])
  unfold span
  rw [List.takeWhile_append_of_pos hds, List.dropWhile_append_of_pos hds, htake, hdrop,
    List.append_nil]

/-- A sign is no digit. -/
theorem integer?_of_natural {cs : List Char} {n : Nat} (h : natural? cs = some n) :
    integer? cs = some (n : Int) := by
  have hdigits := (natural?_eq_some h).2.1
  unfold integer?
  split
  · exact absurd (hdigits '-' List.mem_cons_self) (by decide)
  · exact absurd (hdigits '+' List.mem_cons_self) (by decide)
  · rw [h]
    rfl

/-- A whole number is read back from its text. -/
theorem integer?_toString (i : Int) : integer? (toString i).toList = some i := by
  rw [Json.int_toList]
  by_cases hi : i < 0
  · rw [if_pos hi, List.singleton_append, integer?, natural?_toDigits]
    show some (-(i.natAbs : Int)) = some i
    congr 1
    omega
  · rw [if_neg hi, List.nil_append, integer?_of_natural (natural?_toDigits _)]
    congr 1
    omega

end Digits

namespace Numeral

theorem unsigned?_digits {whole fraction : List Char} (hne : whole ≠ [])
    (hwhole : ∀ c ∈ whole, c.isDigit = true) (hfraction : ∀ c ∈ fraction, c.isDigit = true) :
    unsigned? (whole ++ fractionText fraction) =
      some (Nat.ofDigitChars 10 (whole ++ fraction) 0, -(fraction.length : Int)) := by
  unfold unsigned?
  cases fraction with
  | nil =>
    rw [Digits.span_digits hwhole (by simp [fractionText])]
    simp [fractionText, hne, exponent?, Digits.toNat_eq]
  | cons d ds =>
    have hspan : Digits.span (d :: ds ++ []) = (d :: ds, []) := Digits.span_digits hfraction (by simp)
    rw [List.append_nil] at hspan
    rw [Digits.span_digits hwhole (by simp [fractionText])]
    simp [fractionText, hspan, exponent?, Digits.toNat_eq]

theorem parse?_of_unsigned {s : String} {negative : Bool} {rest : List Char} {n : Nat} {e : Int}
    (hsign : splitSign s.toList = (negative, rest)) (hrest : unsigned? rest = some (n, e)) :
    parse? s = some (.decimal negative n e) := by
  unfold parse?
  rw [hsign]
  dsimp only
  rw [hrest]

theorem splitSign_digits {cs : List Char} (h : ∀ c ∈ cs.head?, c.isDigit = true) :
    splitSign cs = (false, cs) := by
  unfold splitSign
  split
  · exact absurd (h '-' rfl) (by decide)
  · exact absurd (h '+' rfl) (by decide)
  · rfl

/-- Digits with a point among them, behind an optional minus, are a numeral. -/
theorem parse?_digits {s : String} {negative : Bool} {whole fraction : List Char}
    (hs : s.toList = (if negative then ['-'] else []) ++ (whole ++ fractionText fraction))
    (hne : whole ≠ []) (hwhole : ∀ c ∈ whole, c.isDigit = true)
    (hfraction : ∀ c ∈ fraction, c.isDigit = true) :
    parse? s = some (.decimal negative (Nat.ofDigitChars 10 (whole ++ fraction) 0)
      (-(fraction.length : Int))) := by
  refine parse?_of_unsigned ?_ (unsigned?_digits hne hwhole hfraction)
  rw [hs]
  cases negative with
  | true => rfl
  | false =>
    refine splitSign_digits fun c hc => hwhole c ?_
    obtain ⟨d, ds, rfl⟩ := List.exists_cons_of_ne_nil hne
    obtain rfl := Option.some.inj hc
    exact List.mem_cons_self

theorem unsigned?_of_natural {cs : List Char} {n : Nat} (h : Digits.natural? cs = some n) :
    unsigned? cs = some (n, 0) := by
  obtain ⟨hne, hdigits, hvalue⟩ := Digits.natural?_eq_some h
  have hread : unsigned? (cs ++ fractionText []) = _ := unsigned?_digits hne hdigits (by simp)
  rw [List.append_nil, ← Digits.toNat_eq, hvalue] at hread
  rwa [fractionText, List.append_nil] at hread

/-- A whole number is a numeral without an exponent. -/
theorem parse?_of_integer {s : String} {i : Int} (h : Digits.integer? s.toList = some i) :
    ∃ negative, parse? s = some (.decimal negative i.natAbs 0) := by
  unfold Digits.integer? at h
  split at h
  · rename_i ds hs
    obtain ⟨_, hlift, rfl⟩ := Option.map_eq_some_iff.mp h
    obtain ⟨n, hn, hcast⟩ := Option.bind_eq_some_iff.mp hlift
    rw [← Option.some.inj hcast, Int.natAbs_neg, Int.natAbs_natCast]
    exact ⟨true, parse?_of_unsigned (by rw [hs]; rfl) (unsigned?_of_natural hn)⟩
  · rename_i ds hs
    obtain ⟨n, hn, rfl⟩ := Option.map_eq_some_iff.mp h
    exact ⟨false, parse?_of_unsigned (by rw [hs]; rfl) (unsigned?_of_natural hn)⟩
  · obtain ⟨n, hn, rfl⟩ := Option.map_eq_some_iff.mp h
    have hdigits := (Digits.natural?_eq_some hn).2.1
    have hsign := splitSign_digits fun c hc => hdigits c (List.mem_of_mem_head? hc)
    exact ⟨false, parse?_of_unsigned hsign (unsigned?_of_natural hn)⟩

end Numeral

namespace Binary64

theorem limit_eq : limit = ((2 ^ 54 - 1) * 2 ^ 970 : Nat) := by
  have hdouble : (2 : ℚ) ^ (971 : Int) = 2 ^ 970 * 2 := by
    rw [← pow_succ]
    rfl
  unfold limit
  rw [hdouble, Nat.cast_mul, Nat.cast_pow, Nat.cast_ofNat]
  generalize (2 : ℚ) ^ 970 = p
  norm_num
  ring

theorem limit_lt : limit < 10 ^ (309 : Int) := by
  have hnat : (2 ^ 54 - 1) * 2 ^ 970 < 10 ^ 309 := by decide +kernel
  rw [limit_eq]
  exact_mod_cast hnat

end Binary64

/-! ## Positional texts -/

namespace Shortest

/-- The digits of a decimal in front of the point and behind it. -/
def pointed (d : Decimal) : List Char × List Char :=
  let ds := Nat.toDigits 10 d.digits
  let places := (-d.exponent).toNat
  if 0 ≤ d.exponent then
    (if d.digits = 0 then ds else ds ++ List.replicate d.exponent.toNat '0', [])
  else if places < ds.length then (ds.take (ds.length - places), ds.drop (ds.length - places))
  else (['0'], List.replicate (places - ds.length) '0' ++ ds)

theorem positional_pointed (d : Decimal) :
    (positional d).toList = (pointed d).1 ++ fractionText (pointed d).2 := by
  have hds : Nat.toDigits 10 d.digits ≠ [] := Nat.toDigits_ne_nil
  unfold pointed
  dsimp only
  by_cases hwhole : 0 ≤ d.exponent
  · rw [if_pos hwhole, positional_toList d hwhole]
    exact (List.append_nil _).symm
  · rw [if_neg hwhole]
    unfold positional
    dsimp only
    rw [if_neg hwhole, withPoint_toList]
    have hpoint : ∀ {fraction : List Char}, fraction ≠ [] → fractionText fraction = '.' :: fraction := by
      intro fraction h
      obtain ⟨c, cs, rfl⟩ := List.exists_cons_of_ne_nil h
      rfl
    split
    · -- some digits stand behind the point, since the power of ten is negative
      rw [hpoint]
      intro hnone
      have := List.drop_eq_nil_iff.mp hnone
      omega
    · rw [hpoint (List.append_ne_nil_of_right_ne_nil _ hds)]
      rfl

theorem pointed_digits (d : Decimal) : (pointed d).1 ≠ [] ∧
    (∀ c ∈ (pointed d).1, c.isDigit = true) ∧ ∀ c ∈ (pointed d).2, c.isDigit = true := by
  have hds : Nat.toDigits 10 d.digits ≠ [] := Nat.toDigits_ne_nil
  have hdigits := isDigit_toDigits (n := d.digits)
  unfold pointed
  dsimp only
  split
  · refine ⟨?_, ?_, by simp⟩
    · split
      · exact hds
      · exact List.append_ne_nil_of_left_ne_nil hds _
    · split
      · exact hdigits
      · exact List.forall_mem_append.mpr ⟨hdigits, isDigit_zeros _⟩
  · split
    · rename_i hplaces
      refine ⟨?_, fun c hc => hdigits c (List.mem_of_mem_take hc),
        fun c hc => hdigits c (List.mem_of_mem_drop hc)⟩
      intro hnone
      have hlength := congrArg List.length hnone
      rw [List.length_take, List.length_nil] at hlength
      omega
    · exact ⟨List.cons_ne_nil _ _, by simp, List.forall_mem_append.mpr ⟨isDigit_zeros _, hdigits⟩⟩

theorem pointed_value (d : Decimal) :
    (Nat.ofDigitChars 10 ((pointed d).1 ++ (pointed d).2) 0 : ℚ) *
      10 ^ (-((pointed d).2.length : Int)) = d.value := by
  have hval : Nat.ofDigitChars 10 (Nat.toDigits 10 d.digits) 0 = d.digits :=
    Nat.ofDigitChars_ten_toDigits
  unfold pointed Decimal.value
  dsimp only
  split
  · rename_i hwhole
    rw [List.append_nil]
    split
    · rename_i hzero
      rw [hval, hzero]
      simp
    · rw [ofDigitChars_append_zeros, hval]
      push_cast
      rw [← zpow_natCast, Int.toNat_of_nonneg hwhole]
      simp
  · rename_i hneg
    split
    · rename_i hplaces
      rw [List.take_append_drop, hval, List.length_drop]
      congr 2
      omega
    · rename_i hplaces
      have hzeros : Nat.ofDigitChars 10 (['0'] ++ (List.replicate ((-d.exponent).toNat -
          (Nat.toDigits 10 d.digits).length) '0' ++ Nat.toDigits 10 d.digits)) 0 = d.digits := by
        rw [← List.append_assoc, Nat.ofDigitChars_append, Nat.ofDigitChars_append,
          Nat.ofDigitChars_replicate_zero]
        show Nat.ofDigitChars 10 _ (_ * 0) = _
        rw [Nat.mul_zero, hval]
      rw [hzeros, List.length_append, List.length_replicate]
      congr 2
      omega

end Shortest

/-- The positional text of a decimal, with a sign, is a numeral that denotes it. -/
theorem Numeral.parse?_positional (negative : Bool) (d : Shortest.Decimal) :
    ∃ (n : Nat) (e : Int), parse? (Shortest.sign negative ++ Shortest.positional d) =
      some (.decimal negative n e) ∧ (n : ℚ) * 10 ^ e = d.value := by
  obtain ⟨hne, hwhole, hfraction⟩ := Shortest.pointed_digits d
  refine ⟨_, _, parse?_digits ?_ hne hwhole hfraction, Shortest.pointed_value d⟩
  rw [String.toList_append, Shortest.positional_pointed]
  cases negative <;> rfl

/-! ## Decimals of finite numbers -/

namespace Shortest

open Binary64 (Canonical limit limit_eq)

/-- The shortest decimal of a finite number is below the middle above the greatest one. -/
theorem value_lt_limit {m : Nat} {e : Int} (hc : Canonical m e) : (digits .up m e).value < limit := by
  by_cases hgreat : e = 971 ∧ 9007199254740990 ≤ m
  · -- the interval of the greatest number reaches up to the limit, so its decimal has to be known
    obtain ⟨rfl, hlow⟩ := hgreat
    have hmax : m < 9007199254740992 := hc.1
    have hbelow : ∀ n : Nat, n * 10 ^ 292 < (2 ^ 54 - 1) * 2 ^ 970 →
        (⟨n, 292⟩ : Decimal).value < limit := by
      intro n hn
      rw [limit_eq]
      refine lt_of_eq_of_lt ?_ (Nat.cast_lt.mpr hn)
      rw [Nat.cast_mul, Nat.cast_pow, Nat.cast_ofNat]
      rfl
    have hm : m = 9007199254740990 ∨ m = 9007199254740991 := by omega
    obtain ⟨hpenult, hlast⟩ := Json.Read.digits_greatest .up
    rcases hm with rfl | rfl
    · rw [hpenult]
      exact hbelow _ (by decide +kernel)
    · rw [hlast]
      exact hbelow _ (by decide +kernel)
  · have hlow : e ≤ 970 ∨ m ≤ 9007199254740989 := by
      have he : e ≤ 971 := hc.2.2.1
      omega
    have hlast : (36028797018963958 : ℚ) * 2 ^ (969 : Int) < limit := by
      have hnat : 36028797018963958 * 2 ^ 969 < (2 ^ 54 - 1) * 2 ^ 970 := by decide +kernel
      rw [limit_eq]
      exact_mod_cast hnat
    obtain ⟨-, -, -, hupper⟩ := digits_spec .up hc
    exact (hupper.trans (Json.Read.upper_end hc hlow)).trans_lt hlast

end Shortest

namespace Binary64

/-- A decimal below the middle above the greatest finite number is rounded to a finite one. -/
theorem ofDecimal_finite (negative : Bool) {n : Nat} {x : Int} (h : (n : ℚ) * 10 ^ x < limit) :
    (ofDecimal negative n x).isFinite = true := by
  unfold ofDecimal
  dsimp only
  split
  · rfl
  · rename_i hn
    split
    · -- so many digits in front of the point are beyond the format
      rename_i hlong
      exfalso
      obtain ⟨k, hk⟩ := Shortest.length_pos n
      have hlead : (10 : ℚ) ^ (k : Int) ≤ n := by
        exact_mod_cast (Shortest.length_bounds (Nat.pos_of_ne_zero hn) hk).1
      rw [hk] at hlong
      have hvalue : (10 : ℚ) ^ (309 : Int) ≤ n * 10 ^ x := calc
        (10 : ℚ) ^ (309 : Int) ≤ 10 ^ ((k : Int) + x) :=
          zpow_le_zpow_right₀ (by norm_num) (by push_cast at hlong; omega)
        _ = 10 ^ (k : Int) * 10 ^ x := zpow_add₀ (by norm_num) _ _
        _ ≤ n * 10 ^ x := by gcongr
      exact absurd (hvalue.trans_lt h) (not_lt.mpr limit_lt.le)
    · split
      · rfl
      · split
        · rename_i hx
          have hratio : ((n * Nat.pow 10 x.toNat : Nat) : ℚ) / (1 : Nat) < limit := by
            refine lt_of_eq_of_lt ?_ h
            rw [Nat.cast_one, div_one, Nat.pow_eq]
            push_cast
            rw [← zpow_natCast, Int.toNat_of_nonneg hx]
          obtain ⟨m, e, heq, -⟩ := ofRatio_finite negative _ Nat.one_pos hratio
          exact congrArg isFinite heq
        · rename_i hx
          have hratio : (n : ℚ) / (Nat.pow 10 (-x).toNat : Nat) < limit := by
            refine lt_of_eq_of_lt ?_ h
            rw [Nat.pow_eq]
            push_cast
            rw [← zpow_natCast, Int.toNat_of_nonneg (by omega), zpow_neg, div_inv_eq_mul]
          obtain ⟨m, e, heq, -⟩ := ofRatio_finite negative _ (Nat.pow_pos (by decide)) hratio
          exact congrArg isFinite heq

/-- The text of a finite number denotes a finite number. -/
theorem plain_finite {m : Nat} {e : Int} (negative : Bool) (hc : Canonical m e) :
    ∃ y, parse? (Shortest.plain (.finite negative m e)) = some y ∧ y.isFinite = true := by
  obtain ⟨n, x, hnumeral, hvalue⟩ := Numeral.parse?_positional negative (Shortest.digits .up m e)
  refine ⟨_, congrArg (Option.map Numeral.toBinary64) hnumeral, ?_⟩
  exact ofDecimal_finite negative (hvalue ▸ Shortest.value_lt_limit hc)

end Binary64

end TableFeed
