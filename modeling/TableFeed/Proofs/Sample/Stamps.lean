import Mathlib.Data.List.DropRight
import TableFeed.Database.Cell
import TableFeed.Proofs.Calendar.Stamps
import TableFeed.Proofs.Sample.Kinds
import TableFeed.Proofs.Text.Cutting

/-!
# Timestamps of the database are dates for ten thousand years

A year outside 0 to 9999 is written with a sign, and no form of a date begins with one: a timestamp and a
layout begin with digits or with the name of a month, a message's date with that of a weekday or with digits.
So the years with four digits are the ones whose timestamps are published as dates.

* **`head_normalize`** — normalizing leaves a sign at the front of a text where it is.
* **`not_isDate_of_sign`** — the crux: a text that begins with a sign is no date in any form.
* **`timestamp?_eq_some`** — what a moment of the database is written as.
* **`stamps_dated_iff`** — the cells whose timestamps are published as dates of their own moments.
-/

namespace TableFeed

/-! ## A sign at the front stays there -/

namespace Blank

variable {c : Char}

theorem head_trimBy {p : Char → Bool} (hc : p c = false) (rest : List Char) :
    ∃ tail, trimBy p (c :: rest) = c :: tail := by
  have hback : trimBy p (c :: rest) = List.rdropWhile p (c :: rest) := by
    unfold trimBy
    rw [List.dropWhile_cons_of_neg (by simp [hc])]
    rfl
  have hfront := List.rdropWhile_prefix p (l := c :: rest)
  rw [← hback] at hfront
  cases htrimmed : trimBy p (c :: rest) with
  | nil =>
    have hall := trimBy_eq_nil.mp htrimmed c List.mem_cons_self
    rw [hc] at hall
    cases hall
  | cons d tail =>
    rw [htrimmed, List.cons_prefix_cons] at hfront
    exact ⟨tail, by rw [hfront.1]⟩

/-- The word that is being read is the first one. -/
theorem wordsFrom_front {front : List Char} (hne : front ≠ []) (cs : List Char) :
    ∃ tail words, wordsFrom front cs = (front.reverse ++ tail) :: words := by
  induction cs generalizing front with
  | nil =>
    obtain ⟨d, ds, rfl⟩ := List.exists_cons_of_ne_nil hne
    exact ⟨[], [], by rw [List.append_nil]; rfl⟩
  | cons d rest ih =>
    obtain ⟨e, es, rfl⟩ := List.exists_cons_of_ne_nil hne
    rw [wordsFrom]
    cases isBlank d with
    | true => exact ⟨[], wordsFrom [] rest, by rw [List.append_nil]; rfl⟩
    | false =>
      obtain ⟨tail, words, heq⟩ := ih (List.cons_ne_nil d (e :: es))
      refine ⟨d :: tail, words, ?_⟩
      rw [if_neg (by decide), heq, List.reverse_cons, List.append_assoc, List.singleton_append]

theorem head_collapse (hc : isBlank c = false) (rest : List Char) :
    ∃ tail, collapse (c :: rest) = c :: tail := by
  obtain ⟨tail, words, hwords⟩ := wordsFrom_front (List.cons_ne_nil c []) rest
  have hfirst : Blank.words (c :: rest) = (c :: tail) :: words := by
    unfold Blank.words
    rw [wordsFrom, hc, if_neg (by decide), hwords]
    rfl
  unfold collapse
  rw [hfirst]
  cases words with
  | nil => exact ⟨tail, by simp⟩
  | cons word words => exact ⟨_, by rw [List.intercalate_cons_cons]; rfl⟩

end Blank

namespace Sample

open Calendar (Part exactly)

section

variable {p : Part} {ps : List Part} {r r' : Calendar.Reading} {cs tail : List Char}

theorem readParts_cons (h : p.read r cs = some (r', tail)) :
    Calendar.readParts (p :: ps) r cs = Calendar.readParts ps r' tail := by
  rw [Calendar.readParts, h]

theorem readParts_none (h : p.read r cs = none) : Calendar.readParts (p :: ps) r cs = none := by
  rw [Calendar.readParts, h]

end

/-- A number begins with a digit. -/
theorem number_nondigit {cs : List Char} {least most : Nat} (hleast : 0 < least)
    (hcs : ∀ c ∈ cs.head?, c.isDigit = false) : Calendar.number least most cs = none := by
  have hdigits : Calendar.digitsUpTo most cs = [] := by
    unfold Calendar.digitsUpTo
    cases most with
    | zero => rfl
    | succ most =>
      cases cs with
      | nil => rfl
      | cons c rest => exact List.takeWhile_cons_of_neg (by simp [hcs c rfl])
  unfold Calendar.number
  rw [hdigits]
  exact if_pos hleast

/-- A character that is the same in lower case begins no name unless one begins with it. -/
theorem shortName_front {c : Char} (rest : List Char) {names : List String} (hlower : c.toLower = c)
    (hnames : ∀ name ∈ names, name.toList.head? ≠ some c) :
    Calendar.shortName names (c :: rest) = none := by
  have hnone : names.idxOf? (String.ofList (((c :: rest).take 3).map Char.toLower)) = none := by
    refine List.idxOf?_eq_none_iff.mpr fun hmem => hnames _ hmem ?_
    rw [String.toList_ofList, List.take_succ_cons, List.map_cons, hlower]
    rfl
  unfold Calendar.shortName
  dsimp only
  rw [hnone]

/-- A sign in front of a number. -/
def IsSign (c : Char) : Prop :=
  c = '+' ∨ c = '-'

/-- A text without a sign at its front. -/
def NoSign (cs : List Char) : Prop :=
  cs.head? ≠ some '+' ∧ cs.head? ≠ some '-'

instance (cs : List Char) : Decidable (NoSign cs) :=
  inferInstanceAs (Decidable (_ ∧ _))

variable {c : Char} (hc : IsSign c) (rest : List Char)
include hc

theorem not_noSign : ¬ NoSign (c :: rest) := by
  rintro ⟨hplus, hminus⟩
  rcases hc with rfl | rfl
  · exact hplus rfl
  · exact hminus rfl

theorem dropWeekday_sign : dropWeekday (c :: rest) = c :: rest := by
  have hstarts : ∀ start ∈ weekdayStarts, NoSign start := by decide
  unfold dropWeekday
  exact if_neg fun hmem => not_noSign hc _ (hstarts _ hmem)

theorem dropZonesFrom_sign : dropZonesFrom [] (c :: rest) = c :: dropZonesFrom [] rest := by
  have hword : isWordChar c = false := by
    rcases hc with rfl | rfl <;> decide
  rw [dropZonesFrom, hword]
  rfl

/-- Normalizing leaves a sign at the front of a text where it is. -/
theorem head_normalize : ∃ tail, normalize (c :: rest) = c :: tail := by
  have hblank : Blank.isBlank c = false := by
    rcases hc with rfl | rfl <;> decide
  obtain ⟨trimmed, htrim⟩ := Blank.head_trimBy hblank rest
  unfold normalize Blank.trimChars
  rw [htrim, dropWeekday_sign hc, dropZonesFrom_sign hc]
  exact Blank.head_collapse hblank _

/-! ## No date begins with a sign -/

theorem skipBlank_sign : Calendar.skipBlank (c :: rest) = c :: rest := by
  refine List.dropWhile_cons_of_neg ?_
  rcases hc with rfl | rfl <;> decide

theorem number_sign {least most : Nat} (hleast : 0 < least) :
    Calendar.number least most (c :: rest) = none := by
  refine number_nondigit hleast ?_
  rintro d ⟨⟩
  rcases hc with rfl | rfl <;> decide

theorem shortName_sign {names : List String}
    (hnames : ∀ name ∈ names, NoSign name.toList) :
    Calendar.shortName names (c :: rest) = none := by
  have hlower : c.toLower = c := by
    rcases hc with rfl | rfl <;> decide
  refine shortName_front rest hlower fun name hname hhead => ?_
  rcases hc with rfl | rfl
  · exact (hnames name hname).1 hhead
  · exact (hnames name hname).2 hhead

theorem monthName_sign : Calendar.shortName Date.monthNames (c :: rest) = none :=
  shortName_sign hc rest (by decide)

/-- A layout that begins with a month or a day does not fit. -/
theorem not_fits_sign {layout : List Part}
    (hfirst : layout.head? = some .month ∨ layout.head? = some .day) :
    Calendar.fits layout (c :: rest) = false := by
  have hread : Calendar.readParts layout {} (c :: rest) = none := by
    rcases hfirst with hfirst | hfirst
    · obtain ⟨ps, rfl⟩ := List.head?_eq_some_iff.mp hfirst
      refine readParts_none ?_
      rw [Part.read, monthName_sign hc]
      rfl
    · obtain ⟨ps, rfl⟩ := List.head?_eq_some_iff.mp hfirst
      refine readParts_none ?_
      rw [Part.read, skipBlank_sign hc, number_sign hc rest (by decide)]
      rfl
  unfold Calendar.fits
  rw [hread]

/-- The year in front of a stamp is read, and then there is no month. -/
theorem not_fits_stamp : Calendar.fits stampLayout (stampYear ++ c :: rest) = false := by
  have hyear : Part.year.read {} (stampYear ++ c :: rest) =
      some ({ year := some 2000 }, ' ' :: c :: rest) := rfl
  have hskip : Calendar.skipBlank (' ' :: c :: rest) = Calendar.skipBlank (c :: rest) :=
    List.dropWhile_cons_of_pos (by decide : Blank.isBlank ' ' = true)
  have hspace : Part.space.read { year := some 2000 } (' ' :: c :: rest) =
      some ({ year := some 2000 }, c :: rest) := by
    rw [Part.read, hskip, skipBlank_sign hc]
  have hmonth : Part.month.read { year := some 2000 } (c :: rest) = none := by
    rw [Part.read, monthName_sign hc]
    rfl
  have hread : Calendar.readParts stampLayout {} (stampYear ++ c :: rest) = none :=
    (readParts_cons hyear).trans ((readParts_cons hspace).trans (readParts_none hmonth))
  unfold Calendar.fits
  rw [hread]

theorem not_isTimestamp_sign {s : String} (hs : s.toList = c :: rest) :
    Calendar.timestamp? s = none := by
  unfold Calendar.timestamp?
  rw [hs, number_sign hc rest (by decide)]
  rfl

theorem not_isMessageDate_sign {s : String} (hs : s.toList = c :: rest) :
    Calendar.messageDate? s = none := by
  have hweekday : Calendar.messageWeekday (c :: rest) = some (none, c :: rest) := by
    unfold Calendar.messageWeekday
    rw [shortName_sign hc rest (by decide)]
  unfold Calendar.messageDate?
  rw [hs, skipBlank_sign hc, hweekday, Option.bind_eq_bind, Option.bind_some]
  dsimp only
  rw [skipBlank_sign hc, number_sign hc rest (by decide)]
  rfl

/-- A text that begins with a sign is no date in any form. -/
theorem not_isDate_of_sign {s : String} (hs : s.toList = c :: rest) : isDate s = false := by
  obtain ⟨tail, hnormal⟩ := head_normalize hc rest
  have hfirst : ∀ layout ∈ layouts,
      layout.head? = some Part.month ∨ layout.head? = some Part.day := by decide
  have hlayouts : layouts.any (Calendar.fits · (c :: tail)) = false :=
    List.any_eq_false.mpr fun layout hlayout => by
      rw [not_fits_sign hc tail (hfirst layout hlayout)]
      decide
  unfold isDate Calendar.isTimestamp Calendar.isMessageDate
  rw [not_isTimestamp_sign hc rest hs, not_isMessageDate_sign hc rest hs, hs, hnormal]
  dsimp only
  rw [hlayouts, not_fits_stamp hc]
  rfl

end Sample

/-! ## Moments of the database -/

namespace Moment

open Calendar (stamp instant?)

/-- The microseconds from the start of 2000 that a cell stores. -/
def stored (bs : List UInt8) : Int :=
  Bytes.signed 64 (Bytes.toNat bs)

/-- The days from the start of 1970 to a number of microseconds from the start of 2000. -/
def days (micros : Int) : Int :=
  Int.fdiv micros microsPerDay + epochDays

/-- A moment of the years 0 to 9999. -/
def FourDigits (micros : Int) : Prop :=
  -63113904000000000 ≤ micros ∧ micros < 252455616000000000

instance (micros : Int) : Decidable (FourDigits micros) :=
  inferInstanceAs (Decidable (_ ∧ _))

variable {micros : Int}

theorem days_eq (micros : Int) : days micros = micros / 86400000000 + 10957 := by
  unfold days
  rw [Int.fdiv_eq_ediv_of_nonneg _ (by decide)]
  rfl

theorem fourDigits_iff : FourDigits micros ↔ -719528 ≤ days micros ∧ days micros < 2932897 := by
  rw [days_eq]
  unfold FourDigits
  omega

theorem date?_days (micros : Int) : date? (Int.fdiv micros microsPerDay) =
    if Date.minDays ≤ days micros ∧ days micros ≤ Date.maxDays then some (.ofDays (days micros))
    else none :=
  rfl

/-- What a moment is written as, if its day is counted. -/
theorem timestamp?_eq_some {t : String} : timestamp? micros = some t ↔
    (Date.minDays ≤ days micros ∧ days micros ≤ Date.maxDays) ∧
      t = stamp (.ofDays (days micros)) (micros % microsPerDay).toNat := by
  unfold timestamp?
  rw [date?_days, Option.map_eq_some_iff]
  constructor
  · rintro ⟨d, hd, rfl⟩
    split at hd
    · rename_i hcounted
      obtain rfl := Option.some.inj hd
      exact ⟨hcounted, rfl⟩
    · cases hd
  · rintro ⟨hcounted, rfl⟩
    exact ⟨_, if_pos hcounted, rfl⟩

/-- A moment of the years 0 to 9999 is written as a timestamp of its own. -/
theorem instant?_of_fourDigits (h : FourDigits micros) :
    instant? (stamp (.ofDays (days micros)) (micros % microsPerDay).toNat) =
      some (micros * 1000 + 946684800000000000) := by
  obtain ⟨hfirst, hlast⟩ := fourDigits_iff.mp h
  have hday : microsPerDay = 86400000000 := rfl
  have hmod : 0 ≤ micros % microsPerDay ∧ micros % microsPerDay < microsPerDay := by
    rw [hday]
    omega
  rw [Calendar.instant?_stamp hfirst hlast (by omega), Int.toNat_of_nonneg hmod.1, days_eq, hday]
  congr 1
  push_cast
  omega

/-- A moment of another year is written with a sign in front. -/
theorem sign_of_not_fourDigits (h : ¬ FourDigits micros) (inDay : Nat) :
    ∃ c rest, Sample.IsSign c ∧ (stamp (.ofDays (days micros)) inDay).toList = c :: rest := by
  have hyear : ¬ (0 ≤ (Date.ofDays (days micros)).year ∧ (Date.ofDays (days micros)).year ≤ 9999) := by
    have hbefore := Date.year_ofDays_lt (days micros) 0
    have hbehind := Date.year_ofDays_lt (days micros) 25
    rw [fourDigits_iff] at h
    omega
  rw [Calendar.stamp_toList, yearText, if_neg hyear, String.toList_append]
  split
  · exact ⟨'-', _, .inr rfl, rfl⟩
  · exact ⟨'+', _, .inl rfl, rfl⟩

theorem colon_of_stamp (d : Date) (inDay : Nat) : ':' ∈ (stamp d inDay).toList := by
  rw [Calendar.stamp_toList]
  unfold Calendar.afterYear
  simp

end Moment

namespace Sample

/-- A text with a colon is no number and no boolean. -/
theorem classify_of_colon {s : String} (h : ':' ∈ s.toList) :
    classify s = if isDate s then .date else .text := by
  have hnumeric : isNumeric s = false := by
    unfold isNumeric Binary64.parse?
    cases hnumeral : Numeral.parse? s with
    | none => rfl
    | some numeral => exact absurd h (Numeral.no_colon hnumeral)
  have hboolean : isBoolean s = false := by
    have hspelled : ∀ s ∈ Cell.trueSpellings ++ Cell.falseSpellings, ':' ∉ s.toList := by decide
    unfold isBoolean Cell.boolean?
    split
    · rename_i htrue
      exact absurd h (hspelled s (List.mem_append_left _ htrue))
    · split
      · rename_i hfalse
        exact absurd h (hspelled s (List.mem_append_right _ hfalse))
      · rfl
  unfold classify
  rw [hnumeric, hboolean]
  rfl

end Sample

namespace ColumnType

open Sample (classify)
open Calendar (instant?)

variable {type : ColumnType} {bs : List UInt8}

/-- A cell of eight bytes is a moment, if its day is counted. -/
theorem decode_moment (htype : type = .timestamptz ∨ type = .timestamp) (hlength : bs.length = 8) :
    type.decode bs = (inRange (Moment.timestamp? (Moment.stored bs))).map some := by
  have hwhole : Bytes.wholeSigned 8 (.notDrained "timestamp") bs = .ok (Moment.stored bs) := by
    unfold Bytes.wholeSigned Bytes.whole Bytes.number
    rw [if_neg (by omega), List.take_of_length_le (by omega), List.drop_of_length_le (by omega)]
    rfl
  rcases htype with rfl | rfl
  · unfold decode
    dsimp only
    rw [hwhole]
    rfl
  · unfold decode
    dsimp only
    rw [hwhole]
    rfl

/-- **Which timestamps of the database are published as dates.** A cell of eight bytes is read, published
as a date, and denotes as a timestamp the moment that is stored, just if the moment lies in the years 0 to
9999. The other cells that are read are published as texts, and none of these is a timestamp. -/
theorem stamps_dated_iff (htype : type = .timestamptz ∨ type = .timestamp) (hlength : bs.length = 8) :
    ((∃ v, type.decode bs = .ok (some v) ∧ classify v.display = .date ∧
        instant? v.display = some (Moment.stored bs * 1000 + 946684800000000000)) ↔
      Moment.FourDigits (Moment.stored bs)) ∧
    ∀ v, type.decode bs = .ok (some v) → ¬ Moment.FourDigits (Moment.stored bs) →
      classify v.display = .text ∧ instant? v.display = none := by
  have hdecode := decode_moment htype hlength
  generalize Moment.stored bs = micros at *
  -- what is read is the text of a moment, which is no number and no boolean
  have hread : ∀ v, type.decode bs = .ok (some v) →
      ∃ t, v = .text t ∧ t = Calendar.stamp (.ofDays (Moment.days micros))
        (micros % Moment.microsPerDay).toNat := by
    intro v hv
    rw [hdecode] at hv
    cases hstamp : Moment.timestamp? micros with
    | none =>
      rw [hstamp] at hv
      cases hv
    | some t =>
      rw [hstamp] at hv
      obtain rfl := Option.some.inj (Except.ok.inj hv)
      exact ⟨t, rfl, (Moment.timestamp?_eq_some.mp hstamp).2⟩
  have hsigned : ∀ v, type.decode bs = .ok (some v) → ¬ Moment.FourDigits micros →
      classify v.display = .text ∧ instant? v.display = none := by
    intro v hv hyear
    obtain ⟨t, rfl, rfl⟩ := hread v hv
    obtain ⟨c, rest, hc, hfront⟩ :=
      Moment.sign_of_not_fourDigits hyear (micros % Moment.microsPerDay).toNat
    refine ⟨?_, ?_⟩
    · refine (Sample.classify_of_colon (Moment.colon_of_stamp _ _)).trans ?_
      rw [Sample.not_isDate_of_sign hc rest hfront]
      rfl
    · show instant? (Calendar.stamp _ _) = none
      unfold instant?
      rw [Sample.not_isTimestamp_sign hc rest hfront]
      rfl
  refine ⟨⟨?_, ?_⟩, hsigned⟩
  · rintro ⟨v, hv, hdate, -⟩
    refine Decidable.byContradiction fun hyear => ?_
    rw [(hsigned v hv hyear).1] at hdate
    cases hdate
  · intro hyear
    obtain ⟨hfirst, hlast⟩ := Moment.fourDigits_iff.mp hyear
    have hcounted : Date.minDays ≤ -719528 ∧ 2932897 ≤ Date.maxDays := by decide
    have hstamp := Moment.timestamp?_eq_some.mpr
      ⟨⟨hcounted.1.trans hfirst, hlast.le.trans hcounted.2⟩, rfl⟩
    have hinstant := Moment.instant?_of_fourDigits hyear
    refine ⟨.text _, ?_, ?_, hinstant⟩
    · rw [hdecode, hstamp]
      rfl
    · refine (Sample.classify_of_colon (Moment.colon_of_stamp _ _)).trans ?_
      -- a text that denotes a moment is a timestamp
      obtain ⟨parts, hparts, -⟩ := Option.map_eq_some_iff.mp hinstant
      unfold Sample.isDate Calendar.isTimestamp
      rw [hparts]
      rfl

/-- A microsecond before the year 2000. -/
theorem stamps_dated_iff_before :
    ∃ v, decode .timestamptz (List.replicate 8 255) = .ok (some v) ∧ classify v.display = .date ∧
      instant? v.display = some 946684799999999000 :=
  (stamps_dated_iff (.inl rfl) rfl).1.mpr (by decide +kernel)

/-- A moment of the year 11018 is read, and published as a text that is no timestamp. -/
theorem stamp_undated :
    (decode .timestamp [0x03, 0xf3, 0x1b, 0xa5, 0xb6, 0x82, 0x00, 0x00]).toOption =
        some (some (.text "+11018-09-01T00:00:00+00:00")) ∧
      classify (Cell.text "+11018-09-01T00:00:00+00:00").display = .text ∧
      Calendar.timestamp? "+11018-09-01T00:00:00+00:00" = none := by
  refine ⟨by decide +kernel, by decide +kernel, by decide +kernel⟩

end ColumnType

end TableFeed
