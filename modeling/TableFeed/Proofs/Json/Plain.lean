import TableFeed.Proofs.Json.Written

/-!
# Numbers without a power of ten

A number of the grammar may be too great to be read. One without a power of ten is that great only if
there are some three hundred digits in front of its point.

* **`scaled_short`** — a significand with a moderate power of ten is read as a finite number.
* **`number_short`** — so a number with few digits in front of its point is read, however long it is.
* **`isNumber_short`** — and it is accepted as a number.
-/

namespace TableFeed.Json.Read

open Shortest.Layout (fractionText)

/-- The most digits in front of the point for which a number is surely read. -/
def shortLength : Nat := 288

variable {negative : Bool} {n : Nat} {p : Int}

theorem scaled_short (negative : Bool) (hn : n ≤ maxSignificand) (hp : p ≤ shortLength) :
    ∃ x, ∀ rest, scaled negative n p rest = .ok (.float x, rest) := by
  have hbelow : (n : ℚ) * 10 ^ p ≤ 36028797018963958 * 2 ^ (969 : Int) := by
    have hsignificand : (n : ℚ) ≤ 10 ^ 20 := by
      have hpow : maxSignificand ≤ 10 ^ 20 := by decide
      exact_mod_cast hn.trans hpow
    have hpower : (10 : ℚ) ^ p ≤ 10 ^ (288 : Int) := zpow_le_zpow_right₀ (by norm_num) hp
    have hgreatest : 10 ^ 20 * 10 ^ 288 ≤ 36028797018963958 * 2 ^ 969 := by decide +kernel
    calc (n : ℚ) * 10 ^ p ≤ 10 ^ 20 * 10 ^ (288 : Int) := by gcongr
      _ ≤ 36028797018963958 * 2 ^ (969 : Int) := by exact_mod_cast hgreatest
  obtain ⟨x, -, hread⟩ := scaled_below negative hn hbelow
  exact ⟨x, hread⟩

theorem appendDigits_dropped (n : Nat) (ds : List UInt8) : (appendDigits n ds).2.2 ≤ ds.length := by
  induction ds generalizing n with
  | nil => exact Nat.le_refl 0
  | cons d ds ih =>
    rw [appendDigits]
    dsimp only
    split
    · exact (ih _).trans (Nat.le_succ _)
    · exact Nat.le_refl _

theorem fractionPart_short (hn : n ≤ maxSignificand) (hp : p ≤ shortLength) {ds : List Char}
    (hne : ds ≠ []) (hds : ∀ c ∈ ds, c.isDigit = true) :
    ∃ v, fractionPart negative n p (ds.map ascii) = .ok (v, []) := by
  have hnone : NoDigit [] := fun b hb => nomatch hb
  have htake := takeWhile_digits hds hnone
  have hdrop := dropWhile_digits hds hnone
  rw [List.append_nil] at htake hdrop
  -- the digits behind the point that are taken only lessen the power of ten
  obtain ⟨x, hread⟩ := scaled_short negative (appendDigits_le (ds.map ascii) hn)
    (p := p - (appendDigits n (ds.map ascii)).2.1) (by omega)
  obtain ⟨d, ds, rfl⟩ := List.exists_cons_of_ne_nil hne
  unfold fractionPart
  dsimp only
  rw [htake, hdrop]
  exact ⟨_, hread []⟩

theorem behindWhole_short (hn : n ≤ maxSignificand) {dropped : Nat} (hdropped : dropped ≤ shortLength)
    {ds : List Char} (hds : ∀ c ∈ ds, c.isDigit = true) :
    ∃ v, behindWhole negative n dropped ((fractionText ds).map ascii) = .ok (v, []) := by
  have hpower : (dropped : Int) ≤ shortLength := Int.ofNat_le.mpr hdropped
  cases ds with
  | nil =>
    show ∃ v, behindWhole negative n dropped [] = .ok (v, [])
    unfold behindWhole
    dsimp only
    split
    · exact ⟨_, rfl⟩
    · obtain ⟨x, hread⟩ := scaled_short negative hn hpower
      exact ⟨_, hread []⟩
  | cons d ds => exact fractionPart_short hn hpower (List.cons_ne_nil d ds) hds

/-- A number without a power of ten, and with few digits in front of its point, is read. -/
theorem number_short {t : NumberText} (h : t.Proper) (hpower : t.power = none)
    (hshort : t.whole.length ≤ shortLength) :
    ∃ v, number t.negative (t.unsigned.map ascii) = .ok (v, []) := by
  have hstop : NoDigit ((fractionText t.fraction).map ascii) := by
    cases t.fraction with
    | nil => exact fun b hb => nomatch hb
    | cons d ds =>
      intro b hb
      obtain rfl := Option.some.inj hb
      decide
  have hdropped := appendDigits_dropped 0 (t.whole.map ascii)
  rw [List.length_map] at hdropped
  have hunsigned : t.unsigned.map ascii = t.whole.map ascii ++ (fractionText t.fraction).map ascii := by
    rw [NumberText.unsigned, hpower, NumberText.powerText, List.append_nil, List.map_append]
  rw [hunsigned, number_whole h.whole h.wholeDigits hstop]
  exact behindWhole_short (appendDigits_le _ (Nat.zero_le _)) (hdropped.trans hshort) h.fractionDigits

theorem isNumber_short {t : NumberText} (h : t.Proper) (hpower : t.power = none)
    (hshort : t.whole.length ≤ shortLength) : isNumber (Utf8.encode t.text) = true := by
  obtain ⟨v, hread⟩ := number_short h hpower hshort
  obtain ⟨d, ds, hwhole, -⟩ := h.whole
  have hd := h.wholeDigits d (hwhole ▸ List.mem_cons_self)
  obtain ⟨bs, hbs⟩ : ∃ bs, t.unsigned.map ascii = ascii d :: bs := by
    rw [NumberText.unsigned, hwhole]
    exact ⟨_, rfl⟩
  rw [encode_number h]
  rw [hbs] at hread ⊢
  unfold isNumber
  cases hsign : t.negative with
  | true =>
    rw [if_pos rfl, List.singleton_append, skipSpace_leads (leads_mark '-' (by decide))]
    rw [hsign] at hread
    dsimp only
    rw [if_pos rfl, hread]
    rfl
  | false =>
    rw [if_neg Bool.false_ne_true, List.nil_append, skipSpace_leads (leads_digit hd)]
    rw [hsign] at hread
    dsimp only
    rw [if_neg (digit_ne_sign hd).2, hread]
    rfl

end TableFeed.Json.Read
