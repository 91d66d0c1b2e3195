import TableFeed.Database.Cell
import TableFeed.Proofs.Database.Groups
import TableFeed.Proofs.Database.Texts
import TableFeed.Proofs.Text.Utf8

/-!
# Numbers of the database

The database keeps a number in any number of groups, and it also keeps what is no number. Of the numbers
it keeps, the ones that are held with 96 bits and 28 digits behind the point are read and published as
they are. The others are refused, or rounded and published as a number that is near.

* **`NumericCell`** — the cells that the database writes, and what they denote.
* **`ofBytes_bytes`** — a cell is read part by part, and what is no number is refused.
* **`numeric_exact_iff`** — which numbers are published as they are.
-/

namespace TableFeed

/-! ## Cells -/

/-- What a cell says about its sign; a cell that is no number says it there. -/
inductive NumericSign where
  | finite (negative : Bool)
  | notANumber
  | infinity (negative : Bool)
  deriving DecidableEq, Repr

namespace NumericSign

/-- The word that stands for a sign. -/
def code : NumericSign → ℕ
  | finite false => 0
  | finite true => 0x4000
  | notANumber => 0xC000
  | infinity false => 0xD000
  | infinity true => 0xF000

theorem code_lt (sign : NumericSign) : sign.code < 65536 := by
  rcases sign with (_ | _) | _ | (_ | _) <;> decide

end NumericSign

/-- A cell as the database writes it: groups of four digits, the first of which counts
`10000 ^ weight`, and how many digits are shown behind the point. -/
structure NumericCell where
  sign : NumericSign
  weight : ℤ
  scale : ℕ
  groups : List (Fin 10000)
  weight_range : -2 ^ 15 ≤ weight ∧ weight < 2 ^ 15
  scale_lt : scale < 65536
  count_lt : groups.length < 65536

/-- A word of 16 bits, the most significant byte first. -/
def Bytes.word (n : ℕ) : List UInt8 :=
  [.ofNat (n / 256), .ofNat (n % 256)]

namespace NumericCell

open Decimal96 (groupsValue)
open Bytes (word)

/-- The groups as numbers. -/
def digits (cell : NumericCell) : List ℕ :=
  cell.groups.map Fin.val

theorem digits_lt (cell : NumericCell) : ∀ g ∈ cell.digits, g < 10000 := by
  intro g hg
  obtain ⟨group, -, rfl⟩ := List.mem_map.mp hg
  exact group.isLt

/-- The bytes of a cell. -/
def bytes (cell : NumericCell) : List UInt8 :=
  word cell.groups.length ++ (word (cell.weight % 2 ^ 16).toNat ++ (word cell.sign.code ++
    (word cell.scale ++ cell.digits.flatMap word)))

/-- The number that a cell stores, if it is one. -/
def value? (cell : NumericCell) : Option ℚ :=
  match cell.sign with
  | .finite negative => some (Numeral.signed negative (groupsValue cell.weight cell.digits))
  | .notANumber | .infinity _ => none

end NumericCell

/-! ## Words -/

namespace Bytes

theorem number_word {n : ℕ} (hn : n < 65536) (rest : List UInt8) :
    number 2 (word n ++ rest) = .ok (n, rest) := by
  have hhigh : (UInt8.ofNat (n / 256)).toNat = n / 256 := Utf8.toNat_ofNat (by omega)
  have hlow : (UInt8.ofNat (n % 256)).toNat = n % 256 := Utf8.toNat_ofNat (by omega)
  have hvalue : toNat (word n) = n := by
    unfold toNat word
    rw [List.foldl_cons, List.foldl_cons, List.foldl_nil, hhigh, hlow]
    omega
  unfold number
  rw [if_neg (by simp [word])]
  show Except.ok (toNat (word n), rest) = _
  rw [hvalue]

/-- A number with a sign is read back from its word. -/
theorem signed_word {i : ℤ} (h : -2 ^ 15 ≤ i ∧ i < 2 ^ 15) : signed 16 (i % 2 ^ 16).toNat = i := by
  have hpow : Nat.pow 2 (16 - 1) = 32768 ∧ Nat.pow 2 16 = 65536 := ⟨rfl, rfl⟩
  unfold signed
  rw [hpow.1, hpow.2]
  split <;> omega

end Bytes

namespace Decimal96

open Bytes (word number_word signed_word)

theorem readGroups_words {groups : List ℕ} (h : ∀ g ∈ groups, g < 10000) :
    readGroups groups.length (groups.flatMap word) = .ok groups := by
  induction groups with
  | nil => rfl
  | cons group rest ih =>
    have hgroup : group < 65536 := (h group List.mem_cons_self).trans (by decide)
    have hrest := ih fun g hg => h g (List.mem_cons_of_mem group hg)
    rw [List.length_cons, readGroups, List.flatMap_cons, number_word hgroup]
    show (readGroups rest.length (rest.flatMap word)).bind _ = _
    rw [hrest]
    rfl

/-- A cell is read part by part, and what is no number is refused. -/
theorem ofBytes_bytes (cell : NumericCell) : ofBytes cell.bytes =
    match cell.sign with
    | .finite negative =>
      match ofParts negative cell.weight cell.scale cell.digits with
      | some d => .ok d
      | none => .error .numericRange
    | .notANumber => .error .notANumber
    | .infinity false => .error .infinity
    | .infinity true => .error .negativeInfinity := by
  have hweight : (cell.weight % 2 ^ 16).toNat < 65536 := by omega
  have hgroups := readGroups_words cell.digits_lt
  rw [NumericCell.digits, List.length_map] at hgroups
  -- each word is read, and leaves the ones behind it
  unfold ofBytes NumericCell.bytes
  simp only [number_word cell.count_lt, number_word hweight, number_word cell.sign.code_lt,
    number_word cell.scale_lt, signed_word cell.weight_range, NumericCell.digits, hgroups, bind,
    Except.bind]
  rcases cell.sign with (_ | _) | _ | (_ | _) <;> rfl

end Decimal96

namespace ColumnType

open Decimal96 (Held groupsValue maxScale limit)

/-- A cell is read as a text that denotes a number, and it is published as the number of that text. -/
def PublishedAs (bs : List UInt8) (x : ℚ) : Prop :=
  ∃ v, decode .numeric bs = .ok (some v) ∧ Numeral.Denotes v.display x ∧
    Sample.classify v.display = .numeric ∧ Sample.literal v.display = v.display

theorem published_text {bs : List UInt8} {d : Decimal96} (h : Decimal96.ofBytes bs = .ok d)
    (hd : d.mantissa < limit) : PublishedAs bs d.value := by
  refine ⟨.text d.text, ?_, d.text_denotes, Decimal96.classify_text hd, Decimal96.literal_text hd⟩
  unfold decode
  dsimp only
  rw [h]
  rfl

theorem published_iff {bs : List UInt8} {d : Decimal96} (h : Decimal96.ofBytes bs = .ok d)
    (hd : d.mantissa < limit) (x : ℚ) : PublishedAs bs x ↔ d.value = x := by
  constructor
  · rintro ⟨v, hv, hdenotes, -⟩
    obtain ⟨w, hw, hvalue, -⟩ := published_text h hd
    obtain rfl := Option.some.inj (Except.ok.inj (hw.symm.trans hv))
    exact hvalue.eq hdenotes
  · rintro rfl
    exact published_text h hd

theorem refused {bs : List UInt8} {e : CellError} (h : Decimal96.ofBytes bs = .error e) :
    decode .numeric bs = .error e ∧ ∀ x, ¬ PublishedAs bs x := by
  have hdecode : decode .numeric bs = .error e := by
    unfold decode
    dsimp only
    rw [h]
    rfl
  refine ⟨hdecode, ?_⟩
  rintro x ⟨v, hv, -⟩
  rw [hdecode] at hv
  cases hv

/-- A number of the database is refused, or published as the number of the decimal that is read. -/
theorem finite_cases {cell : NumericCell} {negative : Bool} (hsign : cell.sign = .finite negative) :
    (Decimal96.ofParts negative cell.weight cell.scale cell.digits = none ∧
      (∃ e, decode .numeric cell.bytes = .error e) ∧ ∀ x, ¬ PublishedAs cell.bytes x) ∨
    ∃ d, Decimal96.ofParts negative cell.weight cell.scale cell.digits = some d ∧
      ∀ x, PublishedAs cell.bytes x ↔ d.value = x := by
  have hread := Decimal96.ofBytes_bytes cell
  rw [hsign] at hread
  dsimp only at hread
  cases hparts : Decimal96.ofParts negative cell.weight cell.scale cell.digits with
  | none =>
    rw [hparts] at hread
    obtain ⟨herror, hnone⟩ := refused hread
    exact .inl ⟨rfl, ⟨_, herror⟩, hnone⟩
  | some d =>
    rw [hparts] at hread
    exact .inr ⟨d, rfl, published_iff hread (Decimal96.ofParts_held hparts).2.1⟩

/-- **Which numbers of the database are published as they are.** What is no number is refused. A number
is refused, or read as a text that denotes some number and is published as it. It is the number that is
stored just if that is held: with a mantissa below `2 ^ 96`, and with at most 28 digits behind the point
of which all are shown. -/
theorem numeric_exact_iff (cell : NumericCell) :
    (cell.value? = none ∧ ∃ e, decode .numeric cell.bytes = .error e) ∨
    ∃ x, cell.value? = some x ∧
      ((∃ e, decode .numeric cell.bytes = .error e) ∨ ∃ y, PublishedAs cell.bytes y) ∧
      (PublishedAs cell.bytes x ↔ Held (min maxScale cell.scale) |x| ∧
        (x ≠ 0 ∨ cell.weight < cell.groups.length + 7)) := by
  have hread := Decimal96.ofBytes_bytes cell
  unfold NumericCell.value?
  cases hsign : cell.sign with
  | notANumber =>
    rw [hsign] at hread
    exact .inl ⟨rfl, _, (refused hread).1⟩
  | infinity negative =>
    rw [hsign] at hread
    cases negative <;> exact .inl ⟨rfl, _, (refused hread).1⟩
  | finite negative =>
    -- the sign is read as it is, so only the magnitude can be another one
    have hexact : (∃ d, Decimal96.ofParts negative cell.weight cell.scale cell.digits = some d ∧
        d.magnitude = groupsValue cell.weight cell.digits) ↔ _ :=
      Decimal96.ofParts_exact_iff cell.digits_lt
    rw [NumericCell.digits, List.length_map, ← NumericCell.digits] at hexact
    refine .inr ⟨_, rfl, ?_⟩
    rw [Numeral.abs_signed (Decimal96.groupsValue_nonneg _ _), Ne, Numeral.signed_eq_zero, ← Ne,
      ← hexact]
    rcases finite_cases hsign with ⟨hparts, herror, hnone⟩ | ⟨d, hparts, hpublished⟩
    · refine ⟨.inl herror, iff_of_false (hnone _) ?_⟩
      rintro ⟨d, hd, -⟩
      exact nomatch hparts.symm.trans hd
    · obtain ⟨rfl, -, -⟩ := Decimal96.ofParts_held hparts
      refine ⟨.inr ⟨_, (hpublished _).mpr rfl⟩, ?_⟩
      rw [hpublished, Decimal96.value, Numeral.signed_inj, hparts]
      simp

end ColumnType

/-- A cell of a unit at the thirty-second place behind the point. -/
def NumericCell.tiny : NumericCell where
  sign := .finite false
  weight := -8
  scale := 32
  groups := [1]
  weight_range := by decide
  scale_lt := by decide
  count_lt := by decide

/-- A number with more digits behind the point than are computed with is not refused. It is published as
another one, here as zero. -/
theorem ColumnType.numeric_rounded :
    NumericCell.tiny.value? = some (10 ^ (-32 : ℤ)) ∧ PublishedAs NumericCell.tiny.bytes 0 ∧
      ¬ PublishedAs NumericCell.tiny.bytes (10 ^ (-32 : ℤ)) := by
  have hvalue : Decimal96.groupsValue (-8) [1] = 10 ^ (-32 : ℤ) := by
    unfold Decimal96.groupsValue Decimal96.groupsValue
    norm_num
  have hread : Decimal96.ofBytes NumericCell.tiny.bytes = .ok ⟨false, 0, 28⟩ :=
    toOption_eq_some.mp (by decide +kernel)
  have hzero : Decimal96.value ⟨false, 0, 28⟩ = 0 :=
    Numeral.signed_eq_zero.mpr (by unfold Decimal96.magnitude; norm_num)
  have hfits : (⟨false, 0, 28⟩ : Decimal96).mantissa < Decimal96.limit := by decide
  refine ⟨congrArg some hvalue, hzero ▸ published_text hread hfits, ?_⟩
  rw [published_iff hread hfits, hzero]
  norm_num

end TableFeed
