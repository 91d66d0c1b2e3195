import Mathlib.Tactic.IntervalCases
import Mathlib.Tactic.Ring
import TableFeed.Calendar.Date

/-!
# Days and their numbers

Years are counted from March, so that a leap day is the last day of its year, and 400 of them are an era
with the same number of days each. A day is found by its era, its year in the era, its month from March
and its day in the month.

* **`yearOfEra_spec`** — the crux: the year that is computed is the one that the day lies in, and it has a
  366th day only if it ends with a leap day.
* **`ofDays_spec`** — what the day at a number is made of.
* **`toDays_ofDays`**, **`ofDays_inMonth`** — so it has that number, and is one that the calendar has.
* **`year_ofDays_lt`** — the years of an era begin and end with January.
-/

namespace TableFeed.Date

/-! ## Years of an era -/

/-- The days of an era before a year of it. -/
def daysBeforeYear (year : Nat) : Int :=
  365 * (year : Int) + (year / 4 : Nat) - (year / 100 : Nat)

/-- The year of an era that a day of the era lies in. -/
def yearOfEra (day : Nat) : Nat :=
  (day - day / 1460 + day / 36524 - day / 146096) / 365

section

variable {day year : Nat} (hday : day < 146097) (hyear : yearOfEra day = year)
include hday hyear

/-- Days and years of an era pass its centuries together, but for the last day. -/
theorem century_eq : day / 36524 = year / 100 ∧ day / 146096 = 0 ∧ year / 100 ≤ 3 ∨
    day = 146096 ∧ year = 399 := by
  unfold yearOfEra at hyear
  obtain ⟨century, hcentury⟩ : ∃ century, day / 36524 = century := ⟨_, rfl⟩
  have hfew : century ≤ 4 := by omega
  rw [hcentury] at hyear ⊢
  interval_cases century <;> omega

/-- The year that is computed is that of the day. -/
theorem yearOfEra_spec : year ≤ 399 ∧ daysBeforeYear year ≤ day ∧ day ≤ daysBeforeYear year + 365 := by
  unfold daysBeforeYear
  rcases century_eq hday hyear with ⟨hdays, hlast, hfew⟩ | ⟨rfl, rfl⟩
  · unfold yearOfEra at hyear
    rw [hdays, hlast] at hyear
    generalize year / 100 = century at *
    interval_cases century <;> omega
  · omega

/-- Only a year that ends with a leap day has a 366th day. -/
theorem leap_of_last (hlast : day = daysBeforeYear year + 365) :
    (year + 1) % 4 = 0 ∧ ((year + 1) % 100 ≠ 0 ∨ year = 399) := by
  unfold daysBeforeYear at hlast
  rcases century_eq hday hyear with ⟨hdays, hera, hfew⟩ | ⟨rfl, rfl⟩
  · unfold yearOfEra at hyear
    rw [hdays, hera] at hyear
    have hrest : year % 4 ≤ 3 := by omega
    generalize hcentury : year / 100 = century at *
    generalize hfour : year % 4 = rest at *
    interval_cases century <;> interval_cases rest <;> omega
  · omega

end

/-- A day of a year lies in one of its twelve months from March. -/
theorem marchMonth_spec {day month : Nat} (hday : day ≤ 365) (hmonth : (5 * day + 2) / 153 = month) :
    month ≤ 11 ∧ daysBefore month ≤ day ∧ day < daysBefore (month + 1) := by
  unfold daysBefore
  omega

/-! ## The day at a number -/

/-- A year that ends with a leap day is one before a leap year. -/
theorem isLeap_next {year : Nat} (era : Int)
    (h : (year + 1) % 4 = 0 ∧ ((year + 1) % 100 ≠ 0 ∨ year = 399)) :
    isLeap (era * 400 + year + 1) = true := by
  have hfour : (era * 400 + year + 1) % 4 = 0 := by omega
  have hcentury : (era * 400 + year + 1) % 100 ≠ 0 ∨ (era * 400 + year + 1) % 400 = 0 := by omega
  unfold isLeap
  rw [Bool.and_eq_true, Bool.or_eq_true, beq_iff_eq, bne_iff_ne, beq_iff_eq]
  exact ⟨hfour, hcentury⟩

/-- What the day at a number is made of: an era, a year and a month in it, counted from March, and a day
of that month. -/
theorem ofDays_spec (days : Int) : ∃ (era : Int) (year month day : Nat),
    ofDays days = ⟨era * 400 + year + (if month < 10 then 0 else 1),
      if month < 10 then month + 3 else month - 9, day⟩ ∧
    days + 719468 = era * 146097 + daysBeforeYear year + (daysBefore month + day - 1 : Nat) ∧
    year ≤ 399 ∧ month ≤ 11 ∧ 1 ≤ day ∧ daysBefore month + day ≤ daysBefore (month + 1) ∧
    (daysBefore month + day ≤ 365 ∨
      daysBefore month + day = 366 ∧ isLeap (era * 400 + year + 1) = true) := by
  obtain ⟨era, hera⟩ : ∃ era, Int.fdiv (days + 719468) 146097 = era := ⟨_, rfl⟩
  obtain ⟨inEra, hinEra⟩ : ∃ inEra, (days + 719468 - era * 146097).toNat = inEra := ⟨_, rfl⟩
  obtain ⟨year, hyear⟩ : ∃ year, yearOfEra inEra = year := ⟨_, rfl⟩
  obtain ⟨inYear, hinYear⟩ : ∃ inYear,
    inEra - (365 * year + year / 4 - year / 100) = inYear := ⟨_, rfl⟩
  obtain ⟨month, hmonth⟩ : ∃ month, (5 * inYear + 2) / 153 = month := ⟨_, rfl⟩
  rw [Int.fdiv_eq_ediv_of_nonneg _ (by decide)] at hera
  have hday : inEra < 146097 ∧ days + 719468 = era * 146097 + inEra := by omega
  obtain ⟨hyears, hbefore, hwithin⟩ := yearOfEra_spec hday.1 hyear
  have hleap := leap_of_last hday.1 hyear
  have hplace : (inEra : Int) = daysBeforeYear year + inYear := by
    unfold daysBeforeYear at *
    omega
  obtain ⟨hmonths, hfrom, hto⟩ := marchMonth_spec (by omega : inYear ≤ 365) hmonth
  refine ⟨era, year, month, inYear - daysBefore month + 1, ?_, ?_, hyears, hmonths, ?_, ?_, ?_⟩
  · unfold ofDays
    dsimp only
    rw [Int.fdiv_eq_ediv_of_nonneg _ (by decide), hera, hinEra]
    unfold yearOfEra at hyear
    rw [hyear, hinYear, hmonth, Date.mk.injEq]
    refine ⟨?_, rfl, rfl⟩
    by_cases hearly : month < 10
    · rw [if_pos hearly, if_pos hearly, if_neg (by omega)]
      omega
    · rw [if_neg hearly, if_neg hearly, if_pos (by omega)]
      omega
  · omega
  · omega
  · omega
  · rcases Nat.lt_or_ge inYear 365 with hearly | hlate
    · exact .inl (by omega)
    · exact .inr ⟨by omega, isLeap_next era (hleap (by omega))⟩

/-- The day at a number has that number. -/
theorem toDays_ofDays (days : Int) : (ofDays days).toDays = days := by
  obtain ⟨era, year, month, day, heq, hdays, hyears, hmonths, hpos, -⟩ := ofDays_spec days
  have hmarch : ((if month < 10 then month + 3 else month - 9) + 9) % 12 = month := by
    split <;> omega
  have hyear : (if (if month < 10 then month + 3 else month - 9) ≤ 2
      then (era * 400 + year + if month < 10 then 0 else 1) - 1
      else era * 400 + year + if month < 10 then 0 else 1) = era * 400 + year := by
    by_cases hearly : month < 10
    · rw [if_pos hearly, if_pos hearly, if_neg (by omega), add_zero]
    · rw [if_neg hearly, if_neg hearly, if_pos (by omega), add_sub_cancel_right]
  have hera : Int.fdiv (era * 400 + year) 400 = era := by
    rw [Int.fdiv_eq_ediv_of_nonneg _ (by decide)]
    omega
  have hin : era * 400 + year - era * 400 = (year : Int) := by omega
  rw [heq]
  unfold toDays
  dsimp only
  rw [hyear, hera, hin, hmarch, Int.fdiv_eq_ediv_of_nonneg _ (by decide),
    Int.fdiv_eq_ediv_of_nonneg _ (by decide)]
  unfold daysBeforeYear at hdays
  omega

/-- The day at a number is one of its month, and the month one of the year. -/
theorem ofDays_inMonth (days : Int) : 1 ≤ (ofDays days).month ∧ (ofDays days).month ≤ 12 ∧
    1 ≤ (ofDays days).day ∧ (ofDays days).day ≤ daysIn (ofDays days).year (ofDays days).month := by
  obtain ⟨era, year, month, day, heq, -, -, hmonths, hpos, hlast, hleap⟩ := ofDays_spec days
  rw [heq]
  refine ⟨?_, ?_, hpos, ?_⟩
  · show 1 ≤ if month < 10 then month + 3 else month - 9
    split <;> omega
  · show (if month < 10 then month + 3 else month - 9) ≤ 12
    split <;> omega
  · unfold daysBefore at hlast hleap
    unfold daysIn
    -- only February has to know its year
    by_cases hfebruary : month = 11
    · subst hfebruary
      show day ≤ if isLeap (era * 400 + year + 1) then 29 else 28
      rcases hleap with hcommon | ⟨hlate, hleap⟩
      · split <;> omega
      · rw [if_pos hleap]
        omega
    · have hother : (if month < 10 then month + 3 else month - 9) ≠ 2 := by split <;> omega
      rw [if_neg hother]
      interval_cases month <;> simp at hlast hfebruary ⊢ <;> omega

theorem year_ofDays_lt (days : Int) (eras : Int) :
    (ofDays days).year < 400 * eras ↔ days + 719528 < 146097 * eras := by
  obtain ⟨era, year, month, day, heq, hdays, hyears, hmonths, hpos, hlast, hleap⟩ := ofDays_spec days
  rw [heq]
  unfold daysBeforeYear at hdays
  unfold daysBefore at hdays hlast hleap
  dsimp only
  rcases lt_trichotomy era (eras - 1) with hera | hera | hera
  · split <;> omega
  · split <;> omega
  · split <;> omega

end TableFeed.Date
