import Mathlib.Data.List.TakeWhile
import TableFeed.Json.Ignored
import TableFeed.Proofs.Json.Grammar
import TableFeed.Proofs.Json.Ranges
import TableFeed.Proofs.Json.Strings

/-!
# Numbers of the grammar

A number of the grammar may be too great to be read. Whether it is read, and as what, depends on its
text alone (`Settles`).

* **`number_settles`** — the crux: each part of a number leaves what follows it, or fails.
* **`skipNumber_text`** — a number is passed over, however great it is.
* **`number_sound`** — what is read as a number is a number of the grammar.
-/

namespace TableFeed

/-! ## Results of steps -/

section

variable {ε α β : Type}

theorem toOption_bind (x : Except ε α) (f : α → Except ε β) :
    (x >>= f).toOption = x.toOption.bind fun a => (f a).toOption := by
  cases x <;> rfl

theorem toOption_map (x : Except ε α) (f : α → β) : (x.map f).toOption = x.toOption.map f := by
  cases x <;> rfl

theorem toOption_mapError {δ : Type} (x : Except ε α) (f : ε → δ) :
    (x.mapError f).toOption = x.toOption := by
  cases x <;> rfl

theorem toOption_eq_some {x : Except ε α} {a : α} : x.toOption = some a ↔ x = .ok a := by
  cases x with
  | error e => exact iff_of_false (fun h => nomatch h) (fun h => nomatch h)
  | ok b =>
    exact ⟨fun h => congrArg Except.ok (Option.some.inj h), fun h => congrArg some (Except.ok.inj h)⟩

end

namespace Json

/-- A number, whole or not. -/
inductive IsNumber : Json → Prop where
  | int (i : Int) : IsNumber (.int i)
  | float (x : Binary64) : IsNumber (.float x)

namespace Read

open Shortest.Layout (fractionText)
open NumberText (IsPower ProperPower isPower_none powerText)

/-- A reader has one outcome on a text: a value, with what follows the text left, or a failure. It is
the same in front of everything that cannot be part of a number. -/
def Settles {α : Type} (read : List UInt8 → Reading α) (text : List UInt8) (outcome : Option α) :
    Prop :=
  ∀ rest, Ends rest → (read (text ++ rest)).toOption = outcome.map (·, rest)

/-! ## Numbers -/

/-- A reader settles on a number, or it fails. -/
def SettlesNumber (read : List UInt8 → Reading Json) (cs : List Char) : Prop :=
  ∃ outcome : Option Json, (∀ v ∈ outcome, v.IsNumber) ∧ Settles read (cs.map ascii) outcome

variable {negative : Bool} {n : Nat} {p : Int} {rest : List UInt8} {ds : List Char}

theorem scaled_settles (negative : Bool) (hn : n ≤ maxSignificand) (p : Int) :
    SettlesNumber (scaled negative n p) [] := by
  obtain ⟨m, e, -, -, ⟨x, -, hread⟩ | ⟨hfail, -⟩⟩ := scaled_cases negative p hn
  · refine ⟨some (.float x), fun v hv => ?_, fun rest _ => congrArg Except.toOption (hread rest)⟩
    rw [← Option.some.inj hv]
    exact .float x
  · exact ⟨none, fun v hv => (nomatch hv), fun rest _ => congrArg Except.toOption (hfail rest)⟩

/-- The digits of an exponent are read up to its end, or up to one that makes it too great. -/
theorem exponentDigits_settles (hds : ∀ c ∈ ds, c.isDigit = true) (n : Nat) :
    (∃ e, ∀ rest, NoDigit rest → exponentDigits n (ds.map ascii ++ rest) = (some e, rest)) ∨
      ∀ rest, NoDigit rest → ∃ more, exponentDigits n (ds.map ascii ++ rest) = (none, more) ∧
        more.dropWhile isDigit = rest := by
  induction ds generalizing n with
  | nil =>
    refine .inl ⟨n, fun rest hrest => ?_⟩
    cases rest with
    | nil => rfl
    | cons b bs =>
      show exponentDigits n (b :: bs) = _
      rw [exponentDigits, if_neg (by simp [hrest b rfl])]
  | cons d ds ih =>
    have hds' := fun c hc => hds c (List.mem_cons_of_mem d hc)
    have hd := isDigit_ascii (hds d List.mem_cons_self)
    have hstep : ∀ rest, exponentDigits n ((d :: ds).map ascii ++ rest) =
        if 10 * n + digitValue (ascii d) < Nat.pow 2 31 then
          exponentDigits (10 * n + digitValue (ascii d)) (ds.map ascii ++ rest)
        else (none, ds.map ascii ++ rest) := by
      intro rest
      rw [List.map_cons, List.cons_append, exponentDigits, if_pos hd]
    simp only [hstep]
    split
    · exact ih hds' _
    · -- the reading stops in the middle of the digits, and what is left of them is dropped later
      exact .inr fun rest hrest => ⟨_, rfl, dropWhile_digits hds' hrest⟩

/-- A power of ten behind its sign. -/
def behindSign (negative : Bool) (n : Nat) (p : Int) (below : Bool) : List UInt8 → Reading Json
  | [] => failHere .eofValue []
  | d :: ds =>
    if isDigit d then
      match exponentDigits (digitValue d) ds with
      | (some e, rest) =>
        scaled negative n (if below then max (-maxPower - 1) (p - e) else min maxPower (p + e)) rest
      | (none, rest) =>
        if n ≠ 0 ∧ below = false then failHere .numberOutOfRange rest
        else .ok (.float (.zero negative), rest.dropWhile isDigit)
    else failHere .invalidNumber ds

/-- The sign of a power of ten is a plus, a minus or left out. -/
theorem exponentPart_sign (negative : Bool) (n : Nat) (p : Int) (bs : List UInt8) :
    ∃ (sign : Option Char) (below : Bool) (digits : List UInt8),
      (∀ c ∈ sign, c = '+' ∨ c = '-') ∧ bs = sign.toList.map ascii ++ digits ∧
        exponentPart negative n p bs = behindSign negative n p below digits := by
  have hsigns : (∀ c ∈ some '+', c = '+' ∨ c = '-') ∧ (∀ c ∈ some '-', c = '+' ∨ c = '-') := by
    simp
  cases bs with
  | nil => exact ⟨none, false, [], by simp, rfl, rfl⟩
  | cons b bs =>
    by_cases hplus : b = ascii '+'
    · subst hplus
      exact ⟨some '+', false, bs, hsigns.1, rfl, rfl⟩
    · by_cases hminus : b = ascii '-'
      · subst hminus
        exact ⟨some '-', true, bs, hsigns.2, rfl, rfl⟩
      · refine ⟨none, false, b :: bs, by simp, rfl, ?_⟩
        unfold exponentPart
        dsimp only
        rw [if_neg hplus, if_neg hminus]
        rfl

theorem behindSign_settles (negative : Bool) (hn : n ≤ maxSignificand) (p : Int) (below : Bool)
    (hne : ds ≠ []) (hds : ∀ c ∈ ds, c.isDigit = true) :
    SettlesNumber (behindSign negative n p below) ds := by
  obtain ⟨d, ds, rfl⟩ := List.exists_cons_of_ne_nil hne
  have hd := isDigit_ascii (hds d List.mem_cons_self)
  unfold SettlesNumber Settles
  simp only [List.map_cons, List.cons_append, behindSign, if_pos hd]
  rcases exponentDigits_settles (fun c hc => hds c (List.mem_cons_of_mem d hc))
    (digitValue (ascii d)) with ⟨e, he⟩ | hgreat
  · obtain ⟨outcome, hnumber, hscaled⟩ := scaled_settles negative hn
      (if below then max (-maxPower - 1) (p - e) else min maxPower (p + e))
    refine ⟨outcome, hnumber, fun rest hrest => ?_⟩
    rw [he rest hrest.noDigit]
    exact hscaled rest hrest
  · -- the exponent is too great: so is the number, unless it is zero
    by_cases hover : n ≠ 0 ∧ below = false
    · refine ⟨none, fun v hv => (nomatch hv), fun rest hrest => ?_⟩
      obtain ⟨more, hmore, -⟩ := hgreat rest hrest.noDigit
      rw [hmore]
      exact congrArg Except.toOption (if_pos hover)
    · refine ⟨some (.float (.zero negative)), fun v hv => ?_, fun rest hrest => ?_⟩
      · rw [← Option.some.inj hv]
        exact .float _
      · obtain ⟨more, hmore, hdrop⟩ := hgreat rest hrest.noDigit
        rw [hmore]
        dsimp only
        rw [if_neg hover, hdrop]
        rfl

theorem digit_ne_sign {d : Char} (hd : d.isDigit = true) :
    ascii d ≠ ascii '+' ∧ ascii d ≠ ascii '-' := by
  have hrange := toNat_digit hd
  rw [Ne, Ne, ascii_inj (by omega) (by decide), ascii_inj (by omega) (by decide)]
  constructor
  · rintro rfl
    cases hd
  · rintro rfl
    cases hd

theorem exponentPart_settles (negative : Bool) (hn : n ≤ maxSignificand) (p : Int) {mark : Char}
    {sign : Option Char} (h : ProperPower mark sign ds) :
    SettlesNumber (exponentPart negative n p) (sign.toList ++ ds) := by
  obtain ⟨below, hbelow⟩ : ∃ below, ∀ rest,
      exponentPart negative n p ((sign.toList ++ ds).map ascii ++ rest) =
        behindSign negative n p below (ds.map ascii ++ rest) := by
    cases sign with
    | none =>
      refine ⟨false, fun rest => ?_⟩
      obtain ⟨d, ds, rfl⟩ := List.exists_cons_of_ne_nil h.some
      obtain ⟨hplus, hminus⟩ := digit_ne_sign (h.digits d List.mem_cons_self)
      show exponentPart negative n p (ascii d :: (ds.map ascii ++ rest)) = _
      unfold exponentPart
      dsimp only
      rw [if_neg hplus, if_neg hminus]
      rfl
    | some c =>
      rcases h.sign c rfl with rfl | rfl
      · exact ⟨false, fun rest => rfl⟩
      · exact ⟨true, fun rest => rfl⟩
  obtain ⟨outcome, hnumber, hsettles⟩ := behindSign_settles negative hn p below h.some h.digits
  refine ⟨outcome, hnumber, fun rest hrest => ?_⟩
  rw [hbelow]
  exact hsettles rest hrest

theorem mark_ascii {mark : Char} {sign : Option Char} (h : ProperPower mark sign ds) :
    ascii mark = ascii 'e' ∨ ascii mark = ascii 'E' :=
  h.mark.imp (congrArg ascii) (congrArg ascii)

/-- What follows the digits in front of a power of ten cannot be a digit. -/
theorem noDigit_power {power : Option (Char × Option Char × List Char)}
    (h : IsPower power)
    (hrest : Ends rest) : NoDigit ((powerText power).map ascii ++ rest) := by
  cases power with
  | none => exact hrest.noDigit
  | some power =>
    obtain ⟨mark, sign, ds⟩ := power
    intro b hb
    obtain rfl := Option.some.inj hb
    rcases (h mark sign ds rfl).mark with rfl | rfl <;> decide

/-- A power of ten, or none, behind the digits of a number with a point. -/
theorem afterDigits_settles (negative : Bool) (hn : n ≤ maxSignificand) (p : Int)
    {power : Option (Char × Option Char × List Char)}
    (h : IsPower power) :
    SettlesNumber (afterDigits negative n p) (powerText power) := by
  cases power with
  | none =>
    -- without a mark the digits are scaled as they stand, and what follows cannot be one
    obtain ⟨outcome, hnumber, hsettles⟩ := scaled_settles negative hn p
    refine ⟨outcome, hnumber, fun rest hrest => ?_⟩
    rw [← hsettles rest hrest]
    show (afterDigits negative n p rest).toOption = (scaled negative n p rest).toOption
    cases rest with
    | nil => rfl
    | cons b bs =>
      obtain ⟨-, -, he, hE⟩ := hrest b rfl
      exact congrArg Except.toOption (if_neg fun h => h.elim he hE)
  | some power =>
    obtain ⟨mark, sign, ds⟩ := power
    have hpower := h mark sign ds rfl
    obtain ⟨outcome, hnumber, hsettles⟩ := exponentPart_settles negative hn p hpower
    refine ⟨outcome, hnumber, fun rest hrest => ?_⟩
    rw [← hsettles rest hrest]
    exact congrArg Except.toOption (if_pos (mark_ascii hpower))

theorem fractionPart_settles (negative : Bool) (hn : n ≤ maxSignificand) (p : Int) (hne : ds ≠ [])
    (hds : ∀ c ∈ ds, c.isDigit = true) {power : Option (Char × Option Char × List Char)}
    (h : IsPower power) :
    SettlesNumber (fractionPart negative n p) (ds ++ powerText power) := by
  obtain ⟨d, ds, rfl⟩ := List.exists_cons_of_ne_nil hne
  obtain ⟨outcome, hnumber, hsettles⟩ := afterDigits_settles negative
    (appendDigits_le ((d :: ds).map ascii) hn) (p - (appendDigits n ((d :: ds).map ascii)).2.1) h
  refine ⟨outcome, hnumber, fun rest hrest => ?_⟩
  have hstop := noDigit_power h hrest
  rw [← hsettles rest hrest, List.map_append, List.append_assoc]
  unfold fractionPart
  dsimp only
  rw [takeWhile_digits hds hstop, dropWhile_digits hds hstop]
  rfl

theorem isNumber_wholeNumber (negative : Bool) (n : Nat) : (wholeNumber negative n).IsNumber := by
  unfold wholeNumber
  split
  · exact .int _
  · split
    · exact .float _
    · exact .int _

/-- Digits alone are a number. -/
theorem behindWhole_ended (negative : Bool) (hn : n ≤ maxSignificand) (dropped : Nat) :
    SettlesNumber (behindWhole negative n dropped) [] := by
  have hended : ∀ rest, Ends rest → behindWhole negative n dropped rest =
      if dropped = 0 then .ok (wholeNumber negative n, rest) else scaled negative n dropped rest := by
    intro rest hrest
    unfold behindWhole
    cases rest with
    | nil => rfl
    | cons b bs =>
      obtain ⟨-, hpoint, he, hE⟩ := hrest b rfl
      exact (if_neg hpoint).trans (if_neg fun h => h.elim he hE)
  by_cases hdropped : dropped = 0
  · refine ⟨some (wholeNumber negative n), fun v hv => ?_, fun rest hrest => ?_⟩
    · rw [← Option.some.inj hv]
      exact isNumber_wholeNumber negative n
    · exact congrArg Except.toOption ((hended rest hrest).trans (if_pos hdropped))
  · obtain ⟨outcome, hnumber, hsettles⟩ := scaled_settles negative hn dropped
    refine ⟨outcome, hnumber, fun rest hrest => ?_⟩
    rw [← hsettles rest hrest]
    exact congrArg Except.toOption ((hended rest hrest).trans (if_neg hdropped))

theorem behindWhole_settles (negative : Bool) (hn : n ≤ maxSignificand) (dropped : Nat)
    {t : NumberText} (h : t.Proper) :
    SettlesNumber (behindWhole negative n dropped)
      (fractionText t.fraction ++ powerText t.power) := by
  cases hfraction : t.fraction with
  | cons f fs =>
    exact fractionPart_settles negative hn _ (List.cons_ne_nil f fs) (hfraction ▸ h.fractionDigits)
      h.power
  | nil =>
    cases hpower : t.power with
    | none => exact behindWhole_ended negative hn dropped
    | some power =>
      obtain ⟨mark, sign, ds⟩ := power
      have hproper := h.power mark sign ds hpower
      obtain ⟨outcome, hnumber, hsettles⟩ := exponentPart_settles negative hn dropped hproper
      refine ⟨outcome, hnumber, fun rest hrest => ?_⟩
      rw [← hsettles rest hrest]
      have hpoint : ¬ ascii mark = ascii '.' := by
        rcases hproper.mark with rfl | rfl <;> decide
      exact congrArg Except.toOption ((if_neg hpoint).trans (if_pos (mark_ascii hproper)))

theorem noDigit_fraction {t : NumberText} (h : t.Proper) (hrest : Ends rest) :
    NoDigit ((fractionText t.fraction ++ powerText t.power).map ascii ++ rest) := by
  cases t.fraction with
  | nil => exact noDigit_power h.power hrest
  | cons f fs =>
    intro b hb
    obtain rfl := Option.some.inj hb
    decide

theorem number_settles {t : NumberText} (h : t.Proper) :
    SettlesNumber (number t.negative) t.unsigned := by
  obtain ⟨outcome, hnumber, hsettles⟩ := behindWhole_settles t.negative
    (appendDigits_le (t.whole.map ascii) (Nat.zero_le maxSignificand))
    (appendDigits 0 (t.whole.map ascii)).2.2 h
  refine ⟨outcome, hnumber, fun rest hrest => ?_⟩
  rw [← hsettles rest hrest, NumberText.unsigned, List.map_append, List.append_assoc,
    number_whole h.whole h.wholeDigits (noDigit_fraction h hrest)]

/-! ### Passing over numbers -/

theorem skipExponent_text {mark : Char} {sign : Option Char}
    (h : ProperPower mark sign ds) (hrest : NoDigit rest) :
    skipExponent ((sign.toList ++ ds).map ascii ++ rest) = .ok rest := by
  obtain ⟨d, ds, rfl⟩ := List.exists_cons_of_ne_nil h.some
  have hd := isDigit_ascii (h.digits d List.mem_cons_self)
  have hdrop := dropWhile_digits (fun c hc => h.digits c (List.mem_cons_of_mem d hc)) hrest
  have hbehind : (if isDigit (ascii d) = true then
      (.ok ((ds.map ascii ++ rest).dropWhile isDigit) : Except Failure (List UInt8))
    else failHere .invalidNumber (ds.map ascii ++ rest)) = .ok rest := by
    rw [if_pos hd, hdrop]
  cases sign with
  | none =>
    have hsign : ¬ (ascii d = ascii '+' ∨ ascii d = ascii '-') :=
      not_or.mpr (digit_ne_sign (h.digits d List.mem_cons_self))
    show skipExponent (ascii d :: (ds.map ascii ++ rest)) = _
    unfold skipExponent
    dsimp only
    rw [if_neg hsign]
    exact hbehind
  | some c =>
    have hsign : ascii c = ascii '+' ∨ ascii c = ascii '-' :=
      (h.sign c rfl).imp (congrArg ascii) (congrArg ascii)
    show skipExponent (ascii c :: ascii d :: (ds.map ascii ++ rest)) = _
    unfold skipExponent
    dsimp only
    rw [if_pos hsign]
    exact hbehind

/-- Passes over a power of ten, if there is one. -/
def skipPower (bs : List UInt8) : Except Failure (List UInt8) :=
  match bs with
  | b :: rest => if b = ascii 'e' ∨ b = ascii 'E' then skipExponent rest else .ok bs
  | [] => .ok []

theorem skipPower_text {power : Option (Char × Option Char × List Char)}
    (h : IsPower power)
    (hrest : Ends rest) :
    skipPower ((powerText power).map ascii ++ rest) = .ok rest := by
  cases power with
  | none =>
    cases rest with
    | nil => rfl
    | cons b bs =>
      obtain ⟨-, -, he, hE⟩ := hrest b rfl
      exact if_neg fun h => h.elim he hE
  | some power =>
    obtain ⟨mark, sign, ds⟩ := power
    have hpower := h mark sign ds rfl
    exact (if_pos (mark_ascii hpower)).trans (skipExponent_text hpower hrest.noDigit)

theorem skipNumber_text {t : NumberText} (h : t.Proper) (hrest : Ends rest) :
    skipNumber (t.unsigned.map ascii ++ rest) = .ok rest := by
  obtain ⟨d, ds, heq, hzero⟩ := h.whole
  have hd := h.wholeDigits d (heq ▸ List.mem_cons_self)
  have hstop := noDigit_fraction h hrest
  have hdrop := dropWhile_digits h.wholeDigits hstop
  have hpower := skipPower_text h.power hrest
  rw [NumberText.unsigned, List.map_append, List.append_assoc]
  rw [heq, List.map_cons, List.cons_append] at hdrop ⊢
  rw [skipNumber, if_neg (by simp [isDigit_ascii hd]), if_neg (not_idle hd hzero hstop), hdrop]
  cases hfraction : t.fraction with
  | nil =>
    -- no point follows, so what is left is a power of ten or nothing
    have hpoint : ∀ b ∈ ((powerText t.power).map ascii ++ rest).head?, ¬ b = ascii '.' := by
      intro b hb
      cases hp : t.power with
      | none =>
        rw [hp] at hb
        exact (hrest b hb).2.1
      | some power =>
        obtain ⟨mark, sign, ds⟩ := power
        rw [hp] at hb
        obtain rfl := Option.some.inj hb
        rcases (h.power mark sign ds hp).mark with rfl | rfl <;> decide
    show (match (powerText t.power).map ascii ++ rest with
      | [] => _
      | c :: rest => _) = _
    cases hbs : (powerText t.power).map ascii ++ rest with
    | nil =>
      rw [hbs] at hpower
      exact hpower
    | cons b bs =>
      rw [hbs] at hpower hpoint
      exact (if_neg (hpoint b rfl)).trans hpower
  | cons f fs =>
    have hf := hfraction ▸ h.fractionDigits
    have hany : ((((f :: fs) ++ powerText t.power).map ascii ++ rest).head?.any isDigit) = true :=
      isDigit_ascii (hf f List.mem_cons_self)
    have hbehind : (((f :: fs) ++ powerText t.power).map ascii ++ rest).dropWhile isDigit =
        (powerText t.power).map ascii ++ rest := by
      rw [List.map_append, List.append_assoc]
      exact dropWhile_digits hf (noDigit_power h.power hrest)
    exact ((if_pos rfl).trans (if_pos hany)).trans ((congrArg skipPower hbehind).trans hpower)

/-! ### What is read as a number -/

theorem exists_digit {b : UInt8} (h : isDigit b = true) :
    ∃ c : Char, c.isDigit = true ∧ ascii c = b := by
  have hrange : 48 ≤ b.toNat ∧ b.toNat ≤ 57 := Utf8.between_iff.mp h
  obtain ⟨hnat, hbyte⟩ := ascii_ofNat (b := b) (by omega)
  exact ⟨Char.ofNat b.toNat, Char.isDigit_iff_toNat.mpr (by rwa [hnat]), hbyte⟩

/-- The digits at the front of a text, and what follows them. -/
theorem exists_digits (bs : List UInt8) :
    ∃ ds : List Char, (∀ c ∈ ds, c.isDigit = true) ∧ ds.map ascii = bs.takeWhile isDigit ∧
      bs = ds.map ascii ++ bs.dropWhile isDigit := by
  have hbytes : ∀ l : List UInt8, (∀ b ∈ l, isDigit b = true) →
      ∃ ds : List Char, (∀ c ∈ ds, c.isDigit = true) ∧ ds.map ascii = l := by
    intro l hl
    induction l with
    | nil => exact ⟨[], List.forall_mem_nil _, rfl⟩
    | cons b l ih =>
      obtain ⟨c, hc, rfl⟩ := exists_digit (hl b List.mem_cons_self)
      obtain ⟨ds, hds, rfl⟩ := ih fun d hd => hl d (List.mem_cons_of_mem _ hd)
      exact ⟨c :: ds, List.forall_mem_cons.mpr ⟨hc, hds⟩, rfl⟩
  obtain ⟨ds, hds, htake⟩ := hbytes (bs.takeWhile isDigit) fun b hb => List.mem_takeWhile_imp hb
  refine ⟨ds, hds, htake, ?_⟩
  rw [htake, List.takeWhile_append_dropWhile]

variable {bs : List UInt8} {v : Json}

theorem scaled_rest {more : List UInt8} (h : scaled negative n p bs = .ok (v, more)) : bs = more := by
  unfold scaled at h
  dsimp only at h
  split at h
  · cases h
  · exact (Prod.mk.inj (Except.ok.inj h)).2

theorem exponentDigits_sound (n : Nat) (bs : List UInt8) :
    ∃ ds : List Char, (∀ c ∈ ds, c.isDigit = true) ∧
      bs = ds.map ascii ++ (exponentDigits n bs).2 := by
  induction bs generalizing n with
  | nil => exact ⟨[], List.forall_mem_nil _, rfl⟩
  | cons b bs ih =>
    rw [exponentDigits]
    split
    · rename_i hb
      obtain ⟨c, hc, rfl⟩ := exists_digit hb
      dsimp only
      split
      · obtain ⟨ds, hds, heq⟩ := ih (10 * n + digitValue (ascii c))
        exact ⟨c :: ds, List.forall_mem_cons.mpr ⟨hc, hds⟩, congrArg (ascii c :: ·) heq⟩
      · exact ⟨[c], List.forall_mem_singleton.mpr hc, rfl⟩
    · exact ⟨[], List.forall_mem_nil _, rfl⟩

theorem behindSign_sound {below : Bool} (h : behindSign negative n p below bs = .ok (v, rest)) :
    ∃ ds : List Char, ds ≠ [] ∧ (∀ c ∈ ds, c.isDigit = true) ∧ bs = ds.map ascii ++ rest := by
  cases bs with
  | nil => cases h
  | cons b bs =>
    rw [behindSign] at h
    split at h
    · rename_i hb
      obtain ⟨d, hd, rfl⟩ := exists_digit hb
      obtain ⟨ds, hds, heq⟩ := exponentDigits_sound (digitValue (ascii d)) bs
      split at h
      · rename_i e more he
        rw [he] at heq
        exact ⟨d :: ds, List.cons_ne_nil d ds, List.forall_mem_cons.mpr ⟨hd, hds⟩,
          congrArg (ascii d :: ·) (scaled_rest h ▸ heq)⟩
      · -- too many digits: those that are dropped belong to the exponent as well
        rename_i more he
        rw [he] at heq
        split at h
        · cases h
        · obtain ⟨-, rfl⟩ := Prod.mk.inj (Except.ok.inj h)
          obtain ⟨ds', hds', -, hmore⟩ := exists_digits more
          refine ⟨d :: (ds ++ ds'), List.cons_ne_nil _ _,
            List.forall_mem_cons.mpr ⟨hd, List.forall_mem_append.mpr ⟨hds, hds'⟩⟩, ?_⟩
          rw [List.map_cons, List.map_append, List.cons_append, List.append_assoc, ← hmore]
          exact congrArg (ascii d :: ·) heq
    · cases h

theorem exponentPart_sound (h : exponentPart negative n p bs = .ok (v, rest)) :
    ∃ sign ds, (∀ mark, mark = 'e' ∨ mark = 'E' → ProperPower mark sign ds) ∧
      bs = (sign.toList ++ ds).map ascii ++ rest := by
  obtain ⟨sign, below, digits, hsign, rfl, heq⟩ := exponentPart_sign negative n p bs
  obtain ⟨ds, hne, hds, rfl⟩ := behindSign_sound (heq ▸ h)
  refine ⟨sign, ds, fun mark hmark => ⟨hmark, hsign, hne, hds⟩, ?_⟩
  rw [List.map_append, List.append_assoc]

theorem exists_mark {b : UInt8} (h : b = ascii 'e' ∨ b = ascii 'E') :
    ∃ mark : Char, (mark = 'e' ∨ mark = 'E') ∧ b = ascii mark := by
  rcases h with rfl | rfl
  · exact ⟨'e', .inl rfl, rfl⟩
  · exact ⟨'E', .inr rfl, rfl⟩

/-- What is read behind digits and a point, or behind digits alone, ends in a power of ten or none. -/
theorem afterDigits_sound (h : afterDigits negative n p bs = .ok (v, rest)) :
    ∃ power, IsPower power ∧
      bs = (powerText power).map ascii ++ rest := by
  have hnone : ∀ {bs}, scaled negative n p bs = .ok (v, rest) →
      ∃ power, IsPower power ∧
        bs = (powerText power).map ascii ++ rest :=
    fun hscaled => ⟨none, isPower_none, scaled_rest hscaled⟩
  unfold afterDigits at h
  split at h
  · split at h
    · rename_i b bs hmark
      obtain ⟨sign, ds, hproper, rfl⟩ := exponentPart_sound h
      obtain ⟨mark, hchar, rfl⟩ := exists_mark hmark
      exact ⟨some (mark, sign, ds), (hproper mark hchar).isPower, rfl⟩
    · exact hnone h
  · exact hnone h

theorem fractionPart_sound (h : fractionPart negative n p bs = .ok (v, rest)) :
    ∃ ds power, ds ≠ [] ∧ (∀ c ∈ ds, c.isDigit = true) ∧
      IsPower power ∧
      bs = (ds ++ powerText power).map ascii ++ rest := by
  obtain ⟨ds, hds, htake, hbs⟩ := exists_digits bs
  unfold fractionPart at h
  dsimp only at h
  rw [← htake] at h
  split at h
  · cases h
  · cases h
  · rename_i hcons
    obtain ⟨power, hproper, hpower⟩ := afterDigits_sound h
    refine ⟨ds, power, ?_, hds, hproper, ?_⟩
    · rintro rfl
      cases hcons
    · rw [List.map_append, List.append_assoc, ← hpower]
      exact hbs

theorem behindWhole_sound {dropped : Nat} (h : behindWhole negative n dropped bs = .ok (v, rest)) :
    ∃ fraction power, (∀ c ∈ fraction, c.isDigit = true) ∧
      IsPower power ∧
      bs = (fractionText fraction ++ powerText power).map ascii ++ rest := by
  have hended : (if dropped = 0 then .ok (wholeNumber negative n, bs)
      else scaled negative n dropped bs) = (.ok (v, rest) : Reading Json) →
      ∃ fraction power, (∀ c ∈ fraction, c.isDigit = true) ∧
        IsPower power ∧
        bs = (fractionText fraction ++ powerText power).map ascii ++ rest := by
    intro hend
    refine ⟨[], none, List.forall_mem_nil _, isPower_none, ?_⟩
    split at hend
    · exact (Prod.mk.inj (Except.ok.inj hend)).2
    · exact scaled_rest hend
  unfold behindWhole at h
  dsimp only at h
  split at h
  · exact hended h
  · split at h
    · rename_i hpoint
      obtain ⟨ds, power, hne, hds, hproper, rfl⟩ := fractionPart_sound h
      obtain ⟨d, ds, rfl⟩ := List.exists_cons_of_ne_nil hne
      exact ⟨d :: ds, power, hds, hproper, hpoint ▸ rfl⟩
    · split at h
      · rename_i hmark
        obtain ⟨sign, ds, hproper, rfl⟩ := exponentPart_sound h
        obtain ⟨mark, hchar, rfl⟩ := exists_mark hmark
        exact ⟨[], some (mark, sign, ds), List.forall_mem_nil _, (hproper mark hchar).isPower, rfl⟩
      · exact hended h

theorem noDigit_dropWhile (bs : List UInt8) : NoDigit (bs.dropWhile isDigit) := by
  intro b hb
  have hnot := List.head?_dropWhile_not isDigit bs
  rw [hb] at hnot
  exact hnot

/-- What is read as a number is a number of the grammar. -/
theorem number_sound (h : number negative bs = .ok (v, rest)) :
    ∃ t : NumberText, t.Proper ∧ t.negative = negative ∧ bs = t.unsigned.map ascii ++ rest := by
  obtain ⟨ds, hds, htake, hbs⟩ := exists_digits bs
  -- there is a digit, and a zero with more digits behind it would have been refused
  have hlead : ∃ d ds', ds = d :: ds' ∧ (d = '0' → ds' = []) := by
    cases bs with
    | nil => cases h
    | cons b bs =>
      rw [number] at h
      split at h
      · cases h
      · rename_i hb
        split at h
        · cases h
        · rename_i hidle
          cases ds with
          | nil =>
            rw [List.takeWhile_cons_of_pos (not_not.mp hb)] at htake
            cases htake
          | cons d ds =>
            obtain ⟨rfl, hbs⟩ := List.cons.inj hbs
            refine ⟨d, ds, rfl, ?_⟩
            rintro rfl
            cases ds with
            | nil => rfl
            | cons c ds =>
              refine absurd ⟨rfl, ?_⟩ hidle
              rw [hbs]
              exact isDigit_ascii (hds c (List.mem_cons_of_mem _ List.mem_cons_self))
  rw [hbs, number_whole hlead hds (noDigit_dropWhile bs)] at h
  obtain ⟨fraction, power, hfraction, hpower, hbehind⟩ := behindWhole_sound h
  refine ⟨⟨negative, ds, fraction, power⟩, ⟨hlead, hds, hfraction, hpower⟩, rfl, ?_⟩
  rw [NumberText.unsigned, List.map_append, List.append_assoc, ← hbehind]
  exact hbs

end Read

end Json

end TableFeed
