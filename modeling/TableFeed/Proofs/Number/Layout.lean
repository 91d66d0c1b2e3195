import Mathlib.Algebra.Group.Nat.Defs
import TableFeed.Number.Shortest
import TableFeed.Text.Digits

/-!
# How a number stands in JSON

The three ways in which `Shortest.json` lays out a decimal have one grammar in common: digits, a
point with digits behind it, a power of ten. A `Layout` is a text of that grammar, by its parts.

* **`proper_layout`** — every decimal is laid out by the grammar: there are digits in front, none of
  them an idle zero, and a point or a power of ten.
* **`json_toList`** — the crux: the text of a number is its sign and the layout of its digits.
* **`significand_layout`** — which digits are read back from a layout, and with which power of ten.
-/

namespace TableFeed.Shortest

/-- A number in JSON behind its sign. -/
structure Layout where
  whole : List Char
  /-- The digits behind the point; without any there is no point. -/
  fraction : List Char
  /-- The power of ten: whether it is negative, and its digits. -/
  power : Option (Bool × List Char)

namespace Layout

/-- The power of ten behind its `e`. -/
def powerText : Option (Bool × List Char) → List Char
  | none => []
  | some (below, ds) => 'e' :: (if below then '-' else '+') :: ds

def fractionText : List Char → List Char
  | [] => []
  | d :: ds => '.' :: d :: ds

def text (l : Layout) : List Char :=
  l.whole ++ fractionText l.fraction ++ powerText l.power

/-- The power of ten as it is written. -/
def written : Option (Bool × List Char) → Int
  | none => 0
  | some (below, ds) =>
    if below then -(Nat.ofDigitChars 10 ds 0 : Int) else Nat.ofDigitChars 10 ds 0

/-- The number that all digits together denote. -/
def significand (l : Layout) : Nat :=
  Nat.ofDigitChars 10 (l.whole ++ l.fraction) 0

/-- The power of ten that the significand is scaled by. -/
def exponent (l : Layout) : Int :=
  written l.power - l.fraction.length

/-- A layout of the grammar. -/
structure Proper (l : Layout) : Prop where
  whole : ∃ d ds, l.whole = d :: ds ∧ (d = '0' → ds = [])
  wholeDigits : ∀ c ∈ l.whole, c.isDigit = true
  fractionDigits : ∀ c ∈ l.fraction, c.isDigit = true
  powerDigits : ∀ below ds, l.power = some (below, ds) → ds ≠ [] ∧ ∀ c ∈ ds, c.isDigit = true
  marked : l.fraction = [] → l.power ≠ none

end Layout

/-- The layout of a decimal in JSON. -/
def layout (d : Decimal) : Layout :=
  let ds := Nat.toDigits 10 d.digits
  let point : Int := ds.length + d.exponent
  if 0 ≤ d.exponent ∧ point ≤ 16 then
    { whole := if d.digits = 0 then ds else ds ++ List.replicate d.exponent.toNat '0'
      fraction := ['0'], power := none }
  else if -5 < point ∧ point ≤ 16 then
    let places := (-d.exponent).toNat
    if places < ds.length then
      { whole := ds.take (ds.length - places), fraction := ds.drop (ds.length - places),
        power := none }
    else { whole := ['0'], fraction := List.replicate (places - ds.length) '0' ++ ds, power := none }
  else
    { whole := ds.take 1, fraction := ds.drop 1,
      power := some (decide (point - 1 < 0), Nat.toDigits 10 (point - 1).natAbs) }

/-! ## Digits of a number -/

theorem toString_toList (n : Nat) : (toString n).toList = Nat.toDigits 10 n := by
  rw [Nat.toString_eq_ofList_toDigits, String.toList_ofList]

theorem length_toString (n : Nat) : (toString n).length = (Nat.toDigits 10 n).length := by
  rw [← String.length_toList, toString_toList]

theorem isDigit_toDigits {n : Nat} : ∀ c ∈ Nat.toDigits 10 n, c.isDigit = true :=
  fun _ => Nat.isDigit_of_mem_toDigits (by decide) (by decide)

theorem isDigit_zeros (n : Nat) : ∀ c ∈ List.replicate n '0', c.isDigit = true := by
  intro c hc
  rw [List.eq_of_mem_replicate hc]
  decide

/-- Only the number zero begins with a zero. -/
theorem toDigits_lead (n : Nat) : ∃ d ds, Nat.toDigits 10 n = d :: ds ∧ (d = '0' → ds = []) := by
  induction n using Nat.strongRecOn with
  | ind n ih =>
    rw [Nat.toDigits_eq_if (by decide : 1 < 10)]
    split
    · exact ⟨_, _, rfl, fun _ => rfl⟩
    · rename_i hten
      obtain ⟨d, ds, heq, hlead⟩ := ih (n / 10) (by omega)
      refine ⟨d, ds ++ [(n % 10).digitChar], by rw [heq, List.cons_append], ?_⟩
      intro hzero
      -- a number from ten has a first part that is not zero
      exfalso
      have hpart : Nat.ofDigitChars 10 (Nat.toDigits 10 (n / 10)) 0 = n / 10 :=
        Nat.ofDigitChars_ten_toDigits
      rw [heq, hlead hzero, hzero] at hpart
      have : n / 10 = 0 := hpart.symm
      omega

/-! ## Every decimal is laid out by the grammar -/

theorem proper_layout (d : Decimal) : (layout d).Proper := by
  obtain ⟨c, cs, hds, hlead⟩ := toDigits_lead d.digits
  have hdigits := isDigit_toDigits (n := d.digits)
  have hlen : 0 < (Nat.toDigits 10 d.digits).length := Nat.length_toDigits_pos
  unfold layout
  dsimp only
  split
  · -- a whole number: zeros go behind the digits, and `.0` marks it
    refine ⟨?_, ?_, by simp, by simp, by simp⟩
    · show ∃ d' ds', (if d.digits = 0 then _ else _ ++ _) = d' :: ds' ∧ _
      split
      · exact ⟨c, cs, hds, hlead⟩
      · rename_i hne
        refine ⟨c, cs ++ List.replicate d.exponent.toNat '0', by rw [hds, List.cons_append], ?_⟩
        intro hzero
        rw [hlead hzero, hzero] at hds
        have hval : Nat.ofDigitChars 10 (Nat.toDigits 10 d.digits) 0 = d.digits :=
          Nat.ofDigitChars_ten_toDigits
        rw [hds] at hval
        exact absurd hval.symm hne
    · intro x hx
      dsimp only at hx
      split at hx
      · exact hdigits x hx
      · rcases List.mem_append.mp hx with hx | hx
        · exact hdigits x hx
        · exact isDigit_zeros _ x hx
  · split
    · rename_i hpoint
      split
      · -- the point stands among the digits
        rename_i hplaces
        refine ⟨?_, fun x hx => hdigits x (List.mem_of_mem_take hx),
          fun x hx => hdigits x (List.mem_of_mem_drop hx), by simp, ?_⟩
        · obtain ⟨k, hk⟩ : ∃ k, (Nat.toDigits 10 d.digits).length - (-d.exponent).toNat = k + 1 :=
            ⟨_, (Nat.succ_pred_eq_of_pos (by omega)).symm⟩
          refine ⟨c, cs.take k, ?_, ?_⟩
          · show (Nat.toDigits 10 d.digits).take _ = _
            rw [hk, hds, List.take_succ_cons]
          · intro hzero
            rw [hlead hzero, List.take_nil]
        · intro hnone
          exfalso
          have hlast : (Nat.toDigits 10 d.digits).length ≤
              (Nat.toDigits 10 d.digits).length - (-d.exponent).toNat :=
            List.drop_eq_nil_iff.mp hnone
          omega
      · -- zeros stand between the point and the digits
        refine ⟨⟨'0', [], rfl, fun _ => rfl⟩, by simp, ?_, by simp, ?_⟩
        · intro x hx
          rcases List.mem_append.mp hx with hx | hx
          · exact isDigit_zeros _ x hx
          · exact hdigits x hx
        · intro hnone
          have := (List.append_eq_nil_iff.mp hnone).2
          rw [hds] at this
          cases this
    · -- one digit in front of the point, and a power of ten
      refine ⟨?_, fun x hx => hdigits x (List.mem_of_mem_take hx),
        fun x hx => hdigits x (List.mem_of_mem_drop hx), ?_, by simp⟩
      · refine ⟨c, [], ?_, fun _ => rfl⟩
        show (Nat.toDigits 10 d.digits).take 1 = _
        rw [hds, List.take_succ_cons, List.take_zero]
      · intro below ds h
        obtain ⟨-, rfl⟩ := Prod.mk.inj (Option.some.inj h)
        exact ⟨Nat.toDigits_ne_nil, isDigit_toDigits⟩

/-- A character of a number's text. -/
def isNumeric (c : Char) : Bool :=
  c.isDigit || c = '-' || c = '.' || c = 'e' || c = '+'

/-- A layout is written with the characters of numbers only. -/
theorem Layout.Proper.numeric {l : Layout} (h : l.Proper) : ∀ c ∈ l.text, isNumeric c = true := by
  have hdigit : ∀ {ds : List Char}, (∀ c ∈ ds, c.isDigit = true) → ∀ c ∈ ds, isNumeric c = true :=
    fun hds c hc => by simp [isNumeric, hds c hc]
  intro c hc
  rcases List.mem_append.mp hc with hc | hc
  · rcases List.mem_append.mp hc with hc | hc
    · exact hdigit h.wholeDigits c hc
    · have hfraction := hdigit h.fractionDigits
      cases hf : l.fraction with
      | nil => simp [hf, fractionText] at hc
      | cons d ds =>
        rw [hf] at hc hfraction
        rcases List.mem_cons.mp hc with rfl | hc
        · decide
        · exact hfraction c hc
  · cases hp : l.power with
    | none => simp [hp, powerText] at hc
    | some p =>
      obtain ⟨below, ds⟩ := p
      rw [hp] at hc
      rcases List.mem_cons.mp hc with rfl | hc
      · decide
      · rcases List.mem_cons.mp hc with rfl | hc
        · cases below <;> decide
        · exact hdigit (h.powerDigits below ds hp).2 c hc

/-! ## The text of a number -/

theorem positional_toList (d : Decimal) (h : 0 ≤ d.exponent) : (positional d).toList =
    if d.digits = 0 then Nat.toDigits 10 d.digits
    else Nat.toDigits 10 d.digits ++ List.replicate d.exponent.toNat '0' := by
  unfold positional
  dsimp only
  rw [if_pos h]
  split
  · exact toString_toList _
  · rw [String.toList_append, toString_toList, zeros, String.toList_ofList]

theorem withPoint_toList (n places : Nat) : (withPoint (toString n) places).toList =
    if places < (Nat.toDigits 10 n).length then
      (Nat.toDigits 10 n).take ((Nat.toDigits 10 n).length - places) ++
        '.' :: (Nat.toDigits 10 n).drop ((Nat.toDigits 10 n).length - places)
    else '0' :: '.' :: (List.replicate (places - (Nat.toDigits 10 n).length) '0' ++
      Nat.toDigits 10 n) := by
  unfold withPoint
  rw [length_toString]
  split
  · simp only [String.toList_append, String.toList_ofList, toString_toList]
    simp
  · simp only [String.toList_append, zeros, String.toList_ofList, toString_toList]
    simp

theorem text_plain (whole : List Char) {fraction : List Char} (h : fraction ≠ []) :
    Layout.text ⟨whole, fraction, none⟩ = whole ++ '.' :: fraction := by
  cases fraction with
  | nil => exact absurd rfl h
  | cons c cs => exact List.append_nil _

/-- The part of `json` that lays out a decimal without its sign. -/
theorem positional_layout {d : Decimal}
    (hpoint : ((Nat.toDigits 10 d.digits).length : Int) + d.exponent ≤ 16)
    (hrange : 0 ≤ d.exponent ∨ -5 < ((Nat.toDigits 10 d.digits).length : Int) + d.exponent) :
    (positional d).toList ++ (if 0 ≤ d.exponent then ['.', '0'] else []) = (layout d).text := by
  have hds : Nat.toDigits 10 d.digits ≠ [] := Nat.toDigits_ne_nil
  unfold layout
  dsimp only
  by_cases hwhole : 0 ≤ d.exponent
  · rw [if_pos hwhole, if_pos ⟨hwhole, hpoint⟩, positional_toList d hwhole,
      text_plain _ (List.cons_ne_nil _ _)]
  · rw [if_neg hwhole, if_neg fun h => hwhole h.1, if_pos ⟨hrange.resolve_left hwhole, hpoint⟩,
      List.append_nil]
    unfold positional
    dsimp only
    rw [if_neg hwhole, withPoint_toList]
    split
    · -- some digits stand behind the point, since the power of ten is negative
      rename_i hplaces
      refine (text_plain _ ?_).symm
      intro hnone
      have hlast := List.drop_eq_nil_iff.mp hnone
      omega
    · exact (text_plain ['0'] (List.append_ne_nil_of_right_ne_nil _ hds)).symm

/-- The text of a number is its sign and the layout of its digits. -/
theorem json_toList (negative : Bool) (m : Nat) (e : Int) : (json negative m e).toList =
    (sign negative).toList ++ (layout (digits .even m e)).text := by
  unfold json
  split
  · rename_i hzero
    have hdigits : digits .even m e = ⟨0, 0⟩ := if_pos hzero
    rw [hdigits, String.toList_append]
    rfl
  · generalize digits .even m e = d
    rw [String.toList_append]
    congr 1
    dsimp only
    rw [length_toString]
    split
    · rename_i h
      rw [← positional_layout h.2 (Or.inl h.1), String.toList_append, if_pos h.1]
      rfl
    · rename_i hwhole
      split
      · rename_i hpoint
        have hneg : ¬ 0 ≤ d.exponent := fun h => hwhole ⟨h, hpoint.2⟩
        rw [← positional_layout hpoint.2 (Or.inr hpoint.1), if_neg hneg, List.append_nil]
      · rename_i hpoint
        unfold layout
        dsimp only
        rw [if_neg hwhole, if_neg hpoint]
        generalize ((Nat.toDigits 10 d.digits).length : Int) + d.exponent - 1 = power
        obtain ⟨c, cs, hds, -⟩ := toDigits_lead d.digits
        rw [toString_toList, hds]
        cases cs <;> by_cases hbelow : power < 0 <;>
          simp [Layout.text, Layout.fractionText, Layout.powerText, hbelow]

/-! ## What the digits of a layout denote -/

theorem ofDigitChars_append_zeros (ds : List Char) (k : Nat) :
    Nat.ofDigitChars 10 (ds ++ List.replicate k '0') 0 = Nat.ofDigitChars 10 ds 0 * 10 ^ k := by
  rw [Nat.ofDigitChars_append, Nat.ofDigitChars_replicate_zero, Nat.mul_comm]

/-- The significand of a layout is the digits of its decimal; a whole number takes zeros too, as
many as its sixteen places leave room for. -/
theorem significand_layout (d : Decimal) : ∃ k : Nat,
    (layout d).significand = d.digits * 10 ^ k ∧ (layout d).exponent = d.exponent - k ∧
      (k = 0 ∨ d.digits * 10 ^ k < 10 ^ 17) := by
  have hval : Nat.ofDigitChars 10 (Nat.toDigits 10 d.digits) 0 = d.digits :=
    Nat.ofDigitChars_ten_toDigits
  have hlen : 0 < (Nat.toDigits 10 d.digits).length := Nat.length_toDigits_pos
  unfold layout
  dsimp only
  split
  · rename_i h
    refine ⟨d.exponent.toNat + 1, ?_, ?_, Or.inr ?_⟩
    · unfold Layout.significand
      dsimp only
      rw [Nat.ofDigitChars_append]
      split
      · rename_i hzero
        rw [hval, hzero, Nat.zero_mul]
        rfl
      · rw [ofDigitChars_append_zeros, hval, Nat.pow_succ, ← Nat.mul_assoc]
        show 10 * (d.digits * 10 ^ d.exponent.toNat) + 0 = _
        omega
    · show (0 : Int) - ((1 : Nat) : Int) = _
      omega
    · -- at most sixteen digits, and the one zero behind the point
      have hroom : (Nat.toDigits 10 d.digits).length ≤ 16 - d.exponent.toNat := by omega
      have hlt : d.digits < 10 ^ (16 - d.exponent.toNat) :=
        (Nat.length_toDigits_le_iff (by decide) (by omega)).mp hroom
      calc d.digits * 10 ^ (d.exponent.toNat + 1)
          < 10 ^ (16 - d.exponent.toNat) * 10 ^ (d.exponent.toNat + 1) :=
            Nat.mul_lt_mul_of_pos_right hlt (Nat.pow_pos (by decide))
        _ = 10 ^ (16 - d.exponent.toNat + (d.exponent.toNat + 1)) := (Nat.pow_add ..).symm
        _ = 10 ^ 17 := by congr 1; omega
  · split
    · split
      · rename_i hplaces
        refine ⟨0, ?_, ?_, Or.inl rfl⟩
        · unfold Layout.significand
          dsimp only
          rw [List.take_append_drop, hval, Nat.pow_zero, Nat.mul_one]
        · show (0 : Int) - (((Nat.toDigits 10 d.digits).drop _).length : Int) = _
          rw [List.length_drop]
          omega
      · refine ⟨0, ?_, ?_, Or.inl rfl⟩
        · unfold Layout.significand
          dsimp only
          rw [← List.append_assoc, Nat.ofDigitChars_append, Nat.ofDigitChars_append,
            Nat.ofDigitChars_replicate_zero]
          show Nat.ofDigitChars 10 _ (_ * 0) = _
          rw [Nat.mul_zero, hval, Nat.pow_zero, Nat.mul_one]
        · show (0 : Int) - ((List.replicate _ '0' ++ Nat.toDigits 10 d.digits).length : Int) = _
          rw [List.length_append, List.length_replicate]
          omega
    · refine ⟨0, ?_, ?_, Or.inl rfl⟩
      · unfold Layout.significand
        dsimp only
        rw [List.take_append_drop, hval, Nat.pow_zero, Nat.mul_one]
      · unfold Layout.exponent Layout.written
        dsimp only
        rw [Nat.ofDigitChars_ten_toDigits, List.length_drop]
        split <;> rename_i hbelow
        · have := of_decide_eq_true hbelow
          omega
        · have := of_decide_eq_false (Bool.eq_false_iff.mpr hbelow)
          omega

/-- How long a layout is behind its point, and how great its power of ten. -/
theorem layout_short (d : Decimal) :
    (layout d).fraction.length + (Layout.written (layout d).power).natAbs ≤
      2 * (Nat.toDigits 10 d.digits).length + d.exponent.natAbs := by
  have hlen : 0 < (Nat.toDigits 10 d.digits).length := Nat.length_toDigits_pos
  unfold layout
  dsimp only
  split
  · show 1 + 0 ≤ _
    omega
  · split
    · split
      · show ((Nat.toDigits 10 d.digits).drop _).length + 0 ≤ _
        rw [List.length_drop]
        omega
      · show (List.replicate _ '0' ++ Nat.toDigits 10 d.digits).length + 0 ≤ _
        rw [List.length_append, List.length_replicate]
        omega
    · unfold Layout.written
      dsimp only
      rw [Nat.ofDigitChars_ten_toDigits, List.length_drop]
      split <;> omega

end TableFeed.Shortest
