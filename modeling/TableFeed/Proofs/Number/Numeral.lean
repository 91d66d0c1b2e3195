import Mathlib.Data.List.TakeWhile
import TableFeed.Number.Numeral
import TableFeed.Proofs.Json.Float

/-!
# Numerals

* **`parse?_chars`** — a numeral that denotes a number is written with digits, signs, points and marks of
  an exponent alone; in particular there is no white space in it.
* **`parse?_cases`** — a numeral that denotes no number is a word behind its sign.
* **`Binary64.InFormat`** — the numbers of the format, with what is no finite number.
* **`parse?_canonical`** — a finite number that a text denotes is one of the format.
-/

namespace TableFeed

namespace Digits

theorem natural?_eq_some {cs : List Char} {n : Nat} (h : natural? cs = some n) :
    cs ≠ [] ∧ (∀ c ∈ cs, c.isDigit = true) ∧ toNat cs = n := by
  unfold natural? at h
  split at h
  · rename_i hcs
    exact ⟨hcs.1, List.all_eq_true.mp hcs.2, Option.some.inj h⟩
  · cases h

end Digits

namespace Numeral

/-- A character of a numeral that denotes a number. -/
def IsMark (c : Char) : Prop :=
  c.isDigit = true ∨ c ∈ ['-', '+', '.', 'e', 'E']

theorem natural?_chars {cs : List Char} {n : Nat} (h : Digits.natural? cs = some n) :
    ∀ c ∈ cs, IsMark c :=
  fun c hc => .inl ((Digits.natural?_eq_some h).2.1 c hc)

theorem integer?_chars {cs : List Char} {i : Int} (h : Digits.integer? cs = some i) :
    ∀ c ∈ cs, IsMark c := by
  have hdigits : ∀ ds : List Char, Digits.natural? ds ≠ none → ∀ c ∈ ds, IsMark c := fun ds hds => by
    obtain ⟨n, hn⟩ := Option.ne_none_iff_exists'.mp hds
    exact natural?_chars hn
  unfold Digits.integer? at h
  split at h
  · exact List.forall_mem_cons.mpr ⟨.inr (by decide), hdigits _ fun hnone => by simp [hnone] at h⟩
  · exact List.forall_mem_cons.mpr ⟨.inr (by decide), hdigits _ fun hnone => by simp [hnone] at h⟩
  · exact hdigits _ fun hnone => by simp [hnone] at h

theorem exponent?_chars {cs : List Char} {i : Int} (h : exponent? cs = some i) :
    ∀ c ∈ cs, IsMark c := by
  cases cs with
  | nil => exact List.forall_mem_nil _
  | cons c cs =>
    rw [exponent?] at h
    split at h
    · rename_i hmark
      refine List.forall_mem_cons.mpr ⟨.inr ?_, integer?_chars h⟩
      rcases hmark with rfl | rfl <;> decide
    · cases h

theorem unsigned?_chars {cs : List Char} {n : Nat} {e : Int} (h : unsigned? cs = some (n, e)) :
    ∀ c ∈ cs, IsMark c := by
  -- digits at the front are marks, so only what is behind them has to be looked at
  have hspan : ∀ {rest : List Char}, (∀ c ∈ rest.dropWhile Char.isDigit, IsMark c) →
      ∀ c ∈ rest, IsMark c := by
    intro rest hrest c hc
    rw [← List.takeWhile_append_dropWhile (p := Char.isDigit) (l := rest)] at hc
    rcases List.mem_append.mp hc with hc | hc
    · exact .inl (List.mem_takeWhile_imp hc)
    · exact hrest c hc
  refine hspan ?_
  unfold unsigned? Digits.span at h
  dsimp only at h
  split at h
  · rename_i rest hpoint
    dsimp only at h
    rw [hpoint]
    refine List.forall_mem_cons.mpr ⟨.inr (by decide), hspan ?_⟩
    split at h
    · cases h
    · obtain ⟨i, hexponent, -⟩ := Option.map_eq_some_iff.mp h
      exact exponent?_chars hexponent
  · dsimp only at h
    split at h
    · cases h
    · obtain ⟨i, hexponent, -⟩ := Option.map_eq_some_iff.mp h
      exact exponent?_chars hexponent

theorem mem_of_splitSign {cs rest : List Char} {negative : Bool} {c : Char}
    (h : splitSign cs = (negative, rest)) (hc : c ∈ cs) : c = '-' ∨ c = '+' ∨ c ∈ rest := by
  unfold splitSign at h
  split at h <;> obtain ⟨-, rfl⟩ := Prod.mk.inj h
  · exact (List.mem_cons.mp hc).imp_right .inr
  · exact .inr (List.mem_cons.mp hc)
  · exact .inr (.inr hc)

/-- A numeral that denotes a number is written with marks alone. -/
theorem parse?_chars {s : String} {negative : Bool} {n : Nat} {e : Int}
    (h : parse? s = some (.decimal negative n e)) : ∀ c ∈ s.toList, IsMark c := by
  unfold parse? at h
  split at h
  rename_i rest hsplit
  split at h
  · rename_i hunsigned
    intro c hc
    rcases mem_of_splitSign hsplit hc with rfl | rfl | hc
    · exact .inr (by decide)
    · exact .inr (by decide)
    · exact unsigned?_chars hunsigned c hc
  · dsimp only at h
    split at h
    · cases h
    · split at h <;> cases h

/-- A numeral that denotes no number is a word behind its sign. -/
theorem parse?_cases {s : String} {numeral : Numeral} (h : parse? s = some numeral) :
    (∃ negative n e, numeral = .decimal negative n e) ∨
    ∃ negative rest, splitSign s.toList = (negative, rest) ∧
      rest.map Char.toLower ∈ ["inf".toList, "infinity".toList, "nan".toList] := by
  unfold parse? at h
  split at h
  rename_i negative rest hsign
  split at h
  · exact .inl ⟨_, _, _, (Option.some.inj h).symm⟩
  · refine .inr ⟨negative, rest, hsign, ?_⟩
    dsimp only at h
    split at h
    · rename_i hword
      rcases hword with hword | hword <;> simp [hword]
    · split at h
      · rename_i hword
        simp [hword]
      · cases h

end Numeral

namespace Binary64

/-- A number of the format, or none. Of the finite ones each has its one significand and exponent. -/
def InFormat (x : Binary64) : Prop :=
  ∀ s m e, x = .finite s m e → Canonical m e

theorem IsCanonical.inFormat {x : Binary64} (h : x.IsCanonical) : x.InFormat := by
  intro s m e hx
  obtain ⟨s', m', e', rfl, hc⟩ := h
  obtain ⟨-, rfl, rfl⟩ := Binary64.finite.inj hx
  exact hc

/-- A decimal is rounded to a number of the format, or to an infinity. -/
theorem ofDecimal_canonical (negative : Bool) (digits : Nat) (exponent : Int)
    (h : (ofDecimal negative digits exponent).isFinite = true) :
    (ofDecimal negative digits exponent).IsCanonical := by
  revert h
  unfold ofDecimal
  dsimp only
  split
  · exact fun _ => isCanonical_zero negative
  split
  · exact fun h => nomatch h
  split
  · exact fun _ => isCanonical_zero negative
  split
  · exact Json.Read.ofRatio_canonical negative _ Nat.one_pos
  · exact Json.Read.ofRatio_canonical negative _ (Nat.pow_pos (by decide))

/-- A text that denotes a finite number is a numeral of its digits, and the number is one of the
format. -/
theorem parse?_canonical {s : String} {x : Binary64} (h : parse? s = some x)
    (hfinite : x.isFinite = true) :
    x.IsCanonical ∧ ∃ negative n e, Numeral.parse? s = some (.decimal negative n e) := by
  obtain ⟨numeral, hnumeral, rfl⟩ := Option.map_eq_some_iff.mp h
  cases numeral with
  | decimal negative n e => exact ⟨ofDecimal_canonical negative n e hfinite, negative, n, e, hnumeral⟩
  | infinity negative => cases hfinite
  | notANumber => cases hfinite

end Binary64

end TableFeed
