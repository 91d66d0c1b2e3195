import TableFeed.Proofs.Number.Plain
import TableFeed.Proofs.Sample.Dates

/-!
# Cells keep their kind

A reader types the text of a cell, and a publisher types the text that the cell is displayed as. The two
try other grammars in another order, so a number with a plus in front, a spelled boolean or a number
beyond the range of the format is published as another text than it was read from; its kind is the same.

* **`classify_of_number`**, **`classify_of_unfinite`** — the crux: what denotes a number is taken for a
  number if it is finite, and else for a text, since it is neither a boolean nor a date.
* **`Cell.InRange.classify_display`** — a cell is displayed as a text of its kind.
* **`classify_of_infer`** — a text from which a cell was inferred was of that kind before.
* **`kinds_agree`** — so typing a text and displaying it again keeps its kind.
-/

namespace TableFeed

/-! ## Numbers are no dates -/

namespace Numeral

theorem no_colon {s : String} {numeral : Numeral} (h : parse? s = some numeral) :
    ':' ∉ s.toList := by
  intro hcolon
  rcases parse?_cases h with ⟨negative, n, e, rfl⟩ | ⟨negative, rest, hsign, hword⟩
  · exact absurd (parse?_chars h ':' hcolon) (by unfold IsMark; decide)
  · have hrest : ':' ∈ rest := by
      rcases mem_of_splitSign hsign hcolon with hminus | hplus | hrest
      · cases hminus
      · cases hplus
      · exact hrest
    have hlower : ':' ∈ rest.map Char.toLower := List.mem_map.mpr ⟨':', hrest, rfl⟩
    have hwords : ∀ word ∈ ["inf".toList, "infinity".toList, "nan".toList], ':' ∉ word := by decide
    exact hwords _ hword hlower

end Numeral

namespace Sample

/-! ## The kind of a text -/

variable {s : String}

theorem classify_of_number {x : Binary64} (h : Binary64.parse? s = some x)
    (hfinite : x.isFinite = true) : classify s = .numeric := by
  unfold classify isNumeric
  rw [h]
  exact if_pos hfinite

/-- A boolean is spelled with letters, or with a digit that denotes a finite number. -/
theorem parse?_of_boolean {b : Bool} (h : Cell.boolean? s = some b) :
    (Binary64.parse? s).all Binary64.isFinite = true := by
  have hspelled : ∀ s ∈ Cell.trueSpellings ++ Cell.falseSpellings,
      (Binary64.parse? s).all Binary64.isFinite = true := by
    decide +kernel
  refine hspelled s (List.mem_append.mpr ?_)
  unfold Cell.boolean? at h
  split at h
  · rename_i htrue
    exact .inl htrue
  · split at h
    · rename_i hfalse
      exact .inr hfalse
    · cases h

theorem classify_of_unfinite {x : Binary64} (h : Binary64.parse? s = some x)
    (hfinite : x.isFinite = false) : classify s = .text := by
  have hnumeric : isNumeric s = false := by
    unfold isNumeric
    rw [h]
    exact hfinite
  have hboolean : isBoolean s = false := by
    refine Bool.eq_false_iff.mpr fun hspelled => ?_
    obtain ⟨b, hb⟩ := Option.isSome_iff_exists.mp hspelled
    have hall := parse?_of_boolean hb
    rw [h, Option.all_some, hfinite] at hall
    cases hall
  have hdate : isDate s = false := by
    obtain ⟨numeral, hnumeral, -⟩ := Option.map_eq_some_iff.mp h
    exact Bool.eq_false_iff.mpr fun hdate => Numeral.no_colon hnumeral (colon_of_isDate hdate)
  unfold classify
  rw [hnumeric, hboolean, hdate]
  rfl

theorem classify_of_boolean {b : Bool} (h : Cell.boolean? s = some b)
    (hnumber : Binary64.parse? s = none) : classify s = .boolean := by
  unfold classify isNumeric isBoolean
  rw [hnumber, h]
  rfl

theorem classify_of_integer {i : Int} (h : Digits.integer? s.toList = some i)
    (hi : i.natAbs ≤ 2 ^ 64) : classify s = .numeric := by
  obtain ⟨negative, hnumeral⟩ := Numeral.parse?_of_integer h
  refine classify_of_number (congrArg (Option.map Numeral.toBinary64) hnumeral) ?_
  refine Binary64.ofDecimal_finite negative ?_
  have hbelow : i.natAbs < (2 ^ 54 - 1) * 2 ^ 970 :=
    Nat.lt_of_le_of_lt hi (by decide +kernel)
  rw [zpow_zero, mul_one, Binary64.limit_eq]
  exact Nat.cast_lt.mpr hbelow

end Sample

/-! ## The kind of a cell -/

namespace Cell

open Sample (Kind classify)

/-- A value of the widths that numbers have. -/
def InRange : Cell → Prop
  | .int i => -2 ^ 63 ≤ i ∧ i < 2 ^ 63
  | .uint n => n < 2 ^ 64
  | .float x => x.InFormat
  | .bool _ | .text _ => True

/-- The kind of a cell. A text is of any. -/
def kind? : Cell → Option Kind
  | .int _ | .uint _ => some .numeric
  | .float x => some (if x.isFinite then .numeric else .text)
  | .bool _ => some .boolean
  | .text _ => none

theorem integer?_display {n : Nat} : Digits.integer? (toString n).toList = some (n : Int) := by
  rw [Shortest.toString_toList]
  exact Digits.integer?_of_natural (Digits.natural?_toDigits n)

/-- The words for what is no finite number are numerals. -/
theorem classify_plain_unfinite {x : Binary64} (h : x.isFinite = false) :
    classify (Shortest.plain x) = .text := by
  refine Sample.classify_of_unfinite (x := x) ?_ h
  cases x with
  | nan => decide +kernel
  | infinite negative => cases negative <;> decide +kernel
  | finite => cases h

theorem InRange.classify_display {v : Cell} {kind : Kind} (h : v.InRange) (hkind : v.kind? = some kind) :
    classify v.display = kind := by
  cases v with
  | int i =>
    obtain rfl := Option.some.inj hkind
    refine Sample.classify_of_integer (Digits.integer?_toString i) ?_
    have hrange : -2 ^ 63 ≤ i ∧ i < 2 ^ 63 := h
    omega
  | uint n =>
    obtain rfl := Option.some.inj hkind
    exact Sample.classify_of_integer integer?_display (Nat.le_of_lt h)
  | float x =>
    obtain rfl := Option.some.inj hkind
    cases hfinite : x.isFinite with
    | true =>
      cases x with
      | finite negative m e =>
        obtain ⟨y, hy, hfinite'⟩ := Binary64.plain_finite negative (h negative m e rfl)
        exact Sample.classify_of_number hy hfinite'
      | nan => cases hfinite
      | infinite => cases hfinite
    | false => exact classify_plain_unfinite hfinite
  | bool b =>
    obtain rfl := Option.some.inj hkind
    cases b <;> decide +kernel
  | text s => cases hkind

/-! ## Inferred cells -/

theorem signed64?_eq_some {s : String} {i : Int} (h : Digits.signed64? s = some i) :
    Digits.integer? s.toList = some i ∧ -2 ^ 63 ≤ i ∧ i < 2 ^ 63 := by
  obtain ⟨hread, hrange⟩ := Option.filter_eq_some_iff.mp h
  exact ⟨hread, of_decide_eq_true hrange⟩

theorem unsigned64?_eq_some {s : String} {n : Nat} (h : Digits.unsigned64? s = some n) :
    Digits.integer? s.toList = some (n : Int) ∧ n < 2 ^ 64 := by
  unfold Digits.unsigned64? at h
  obtain ⟨hread, hrange⟩ := Option.filter_eq_some_iff.mp h
  refine ⟨?_, of_decide_eq_true hrange⟩
  split at hread
  · rename_i ds hs
    rw [hs, Digits.integer?, hread]
    rfl
  · exact Digits.integer?_of_natural hread

/-- What a text was read as, in the order in which readings are tried. -/
theorem infer_cases (s : String) :
    (∃ i, infer s = .int i ∧ Digits.integer? s.toList = some i ∧ -2 ^ 63 ≤ i ∧ i < 2 ^ 63) ∨
    (∃ n, infer s = .uint n ∧ Digits.integer? s.toList = some (n : Int) ∧ n < 2 ^ 64) ∨
    (∃ x, infer s = .float x ∧ Binary64.parse? s = some x) ∨
    (∃ b, infer s = .bool b ∧ Binary64.parse? s = none ∧ boolean? s = some b) ∨
    infer s = .text s := by
  unfold infer
  cases hsigned : Digits.signed64? s with
  | some i => exact .inl ⟨i, rfl, signed64?_eq_some hsigned⟩
  | none =>
    right
    cases hunsigned : Digits.unsigned64? s with
    | some n => exact .inl ⟨n, rfl, unsigned64?_eq_some hunsigned⟩
    | none =>
      right
      cases hnumber : Binary64.parse? s with
      | some x => exact .inl ⟨x, rfl, rfl⟩
      | none =>
        right
        cases hboolean : boolean? s with
        | some b => exact .inl ⟨b, rfl, rfl, rfl⟩
        | none => exact .inr rfl

theorem infer_inRange (s : String) : (infer s).InRange := by
  rcases infer_cases s with ⟨i, hi, -, hrange⟩ | ⟨n, hn, -, hrange⟩ | ⟨x, hx, hread⟩ | ⟨b, hb, -⟩ | ht
  · exact hi ▸ hrange
  · exact hn ▸ hrange
  · rw [hx]
    cases hfinite : x.isFinite with
    | true => exact (Binary64.parse?_canonical hread hfinite).1.inFormat
    | false =>
      -- an infinity is in the format, and so is what is no number
      rintro negative m e rfl
      cases hfinite
  · rw [hb]
    trivial
  · rw [ht]
    trivial

theorem classify_of_infer {s : String} {kind : Kind} (hkind : (infer s).kind? = some kind) :
    classify s = kind := by
  rcases infer_cases s with ⟨i, hi, hread, hrange⟩ | ⟨n, hn, hread, hrange⟩ | ⟨x, hx, hread⟩ |
    ⟨b, hb, hnumber, hread⟩ | ht
  · rw [hi] at hkind
    obtain rfl := Option.some.inj hkind
    exact Sample.classify_of_integer hread (by omega)
  · rw [hn] at hkind
    obtain rfl := Option.some.inj hkind
    exact Sample.classify_of_integer hread (Nat.le_of_lt hrange)
  · rw [hx] at hkind
    obtain rfl := Option.some.inj hkind
    cases hfinite : x.isFinite with
    | true => exact Sample.classify_of_number hread hfinite
    | false => exact Sample.classify_of_unfinite hread hfinite
  · rw [hb] at hkind
    obtain rfl := Option.some.inj hkind
    exact Sample.classify_of_boolean hread hnumber
  · rw [ht] at hkind
    cases hkind

/-- A typed cell is published under its own kind, and a text keeps its kind while it is typed and
displayed again. -/
theorem kinds_agree :
    (∀ (v : Cell) kind, v.InRange → v.kind? = some kind → classify v.display = kind) ∧
    ∀ s, classify (infer s).display = classify s := by
  refine ⟨fun v kind h hkind => h.classify_display hkind, fun s => ?_⟩
  cases hkind : (infer s).kind? with
  | some kind =>
    rw [(infer_inRange s).classify_display hkind, classify_of_infer hkind]
  | none =>
    -- a cell without a kind is the text itself
    rcases infer_cases s with ⟨i, hi, -⟩ | ⟨n, hn, -⟩ | ⟨x, hx, -⟩ | ⟨b, hb, -⟩ | ht
    · rw [hi] at hkind
      cases hkind
    · rw [hn] at hkind
      cases hkind
    · rw [hx] at hkind
      cases hkind
    · rw [hb] at hkind
      cases hkind
    · rw [ht]
      rfl

/-- The greatest whole number, the least number, a boolean, a number beyond the format, and two texts
that are displayed otherwise. -/
theorem kinds_agree_assorted :
    classify (display (.uint 18446744073709551615)) = .numeric ∧
    classify (display (.float (.finite true 1 (-1074)))) = .numeric ∧
    classify (display (.bool true)) = .boolean ∧
    classify (display (.float (.infinite true))) = .text ∧
    classify (infer "+5").display = classify "+5" ∧
    classify (infer "1e400").display = classify "1e400" := by
  refine ⟨?_, ?_, ?_, ?_, kinds_agree.2 "+5", kinds_agree.2 "1e400"⟩
  · exact kinds_agree.1 _ _ (show 18446744073709551615 < 2 ^ 64 by decide) rfl
  · refine kinds_agree.1 (.float (.finite true 1 (-1074))) .numeric ?_ rfl
    rintro s m e ⟨⟩
    decide
  · exact kinds_agree.1 (.bool true) .boolean trivial rfl
  · exact kinds_agree.1 (.float (.infinite true)) .text nofun rfl

end Cell

end TableFeed
