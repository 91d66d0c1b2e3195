import TableFeed.Calendar.Internet
import TableFeed.Database.Moment
import TableFeed.Proofs.Calendar.Days
import TableFeed.Proofs.Number.Plain
import TableFeed.Timing.Duration

/-!
# Timestamps are read back

A moment is written with fixed places, each number with as many digits as its place has, so it is read back
place by place. The offset is that of universal time, and the fraction of a second is written with three or
six digits or left out.

* **`number_padded`** — a number that has no more digits than its place is read from it.
* **`fraction_text`**, **`fractionNanos_text`** — a fraction is passed over, and is the one written.
* **`timestamp?_stamp`** — the crux: what is written is read as the same day and time.
* **`instant?_stamp`** — so it denotes the same moment.
-/

namespace TableFeed

namespace Calendar

/-! ## Numbers in their places -/

variable {width n : Nat}

theorem padded_toList (width n : Nat) : (Digits.padded width n).toList =
    List.replicate (width - (Nat.toDigits 10 n).length) '0' ++ Nat.toDigits 10 n := by
  unfold Digits.padded
  dsimp only
  rw [String.toList_append, String.toList_ofList, Shortest.toString_toList, Shortest.length_toString]

theorem isDigit_padded : ∀ c ∈ (Digits.padded width n).toList, c.isDigit = true := by
  rw [padded_toList]
  exact List.forall_mem_append.mpr ⟨Shortest.isDigit_zeros _, Shortest.isDigit_toDigits⟩

theorem length_padded (hwidth : 0 < width) (hn : n < 10 ^ width) :
    (Digits.padded width n).toList.length = width := by
  have hshort := (Nat.length_toDigits_le_iff (by decide : 1 < 10) hwidth).mpr hn
  rw [padded_toList, List.length_append, List.length_replicate]
  omega

theorem toNat_padded : Digits.toNat (Digits.padded width n).toList = n := by
  rw [padded_toList, Digits.toNat_eq, Nat.ofDigitChars_append, Nat.ofDigitChars_replicate_zero,
    Nat.mul_zero, Nat.ofDigitChars_ten_toDigits]

theorem digitsUpTo_padded (hwidth : 0 < width) (hn : n < 10 ^ width) (rest : List Char) :
    digitsUpTo width ((Digits.padded width n).toList ++ rest) = (Digits.padded width n).toList := by
  unfold digitsUpTo
  rw [List.take_left' (length_padded hwidth hn), List.takeWhile_eq_self_iff.mpr isDigit_padded]

/-- A number is read from its place. -/
theorem number_padded (hwidth : 0 < width) (hn : n < 10 ^ width) (rest : List Char) :
    number width width ((Digits.padded width n).toList ++ rest) = some (n, rest) := by
  unfold number
  dsimp only
  rw [digitsUpTo_padded hwidth hn, length_padded hwidth hn, if_neg (Nat.lt_irrefl _), toNat_padded,
    List.drop_left' (length_padded hwidth hn)]

/-! ## Fractions of a second -/

/-- The nanoseconds of a fraction of a second at the front of a text: its first nine digits. -/
def fractionNanos : List Char → Nat
  | '.' :: rest =>
    let digits := (rest.takeWhile Char.isDigit).take 9
    Digits.toNat digits * Nat.pow 10 (9 - digits.length)
  | _ => 0

/-- Digits behind a point, up to a character that is none. -/
theorem takeWhile_padded {rest : List Char} (hrest : ∀ c ∈ rest.head?, c.isDigit = false) :
    ((Digits.padded width n).toList ++ rest).takeWhile Char.isDigit =
      (Digits.padded width n).toList := by
  have hdigits : ∀ c ∈ (Digits.padded width n).toList, c.isDigit = true := isDigit_padded
  have hspan := Digits.span_digits hdigits hrest
  unfold Digits.span at hspan
  exact (Prod.mk.inj hspan).1

theorem fraction_padded (hwidth : 0 < width) (hn : n < 10 ^ width) {rest : List Char}
    (hrest : ∀ c ∈ rest.head?, c.isDigit = false) :
    fraction ('.' :: ((Digits.padded width n).toList ++ rest)) = some rest := by
  show (longNumber 1 ((Digits.padded width n).toList ++ rest)).map (·.2) = some rest
  unfold longNumber number digitsUpTo
  dsimp only
  rw [List.take_length, takeWhile_padded hrest, length_padded hwidth hn, if_neg (by omega),
    List.drop_left' (length_padded hwidth hn)]
  rfl

theorem fractionNanos_padded (hwidth : 0 < width) (hnine : width ≤ 9) (hn : n < 10 ^ width)
    {rest : List Char} (hrest : ∀ c ∈ rest.head?, c.isDigit = false) :
    fractionNanos ('.' :: ((Digits.padded width n).toList ++ rest)) = n * 10 ^ (9 - width) := by
  have hlength := length_padded hwidth hn
  rw [fractionNanos, takeWhile_padded hrest, List.take_of_length_le (by omega), toNat_padded, hlength,
    Nat.pow_eq]

section

variable {micros : Nat} (hmicros : micros < 1000000) {rest : List Char}
  (hpoint : rest.head? ≠ some '.') (hrest : ∀ c ∈ rest.head?, c.isDigit = false)
include hmicros hpoint hrest

/-- A fraction of a second is passed over. -/
theorem fraction_text : fraction ((Moment.fractionText micros).toList ++ rest) = some rest := by
  unfold Moment.fractionText
  split
  · unfold fraction
    split
    · rename_i heq
      exact absurd (congrArg List.head? heq) hpoint
    · rfl
  · split
    · rw [String.toList_append]
      exact fraction_padded (by decide) (by omega) hrest
    · rw [String.toList_append]
      exact fraction_padded (by decide) (by omega) hrest

/-- A fraction of a second is the one written. -/
theorem fractionNanos_text :
    fractionNanos ((Moment.fractionText micros).toList ++ rest) = micros * 1000 := by
  unfold Moment.fractionText
  split
  · rename_i hzero
    rw [hzero]
    unfold fractionNanos
    split
    · rename_i heq
      exact absurd (congrArg List.head? heq) hpoint
    · rfl
  · split
    · rename_i hmillis
      rw [String.toList_append]
      refine (fractionNanos_padded (by decide) (by decide) (by omega) hrest).trans ?_
      omega
    · rw [String.toList_append]
      exact fractionNanos_padded (by decide) (by decide) (by omega) hrest

end

/-! ## Timestamps -/

theorem exactly_self (c : Char) (rest : List Char) : exactly c (c :: rest) = some rest :=
  if_pos rfl

/-- The sign of the offset ends a fraction of a second. -/
theorem noDigit_plus (rest : List Char) : ∀ c ∈ ('+' :: rest).head?, c.isDigit = false := by
  rintro c ⟨⟩
  rfl

/-- The text of a moment: a day, and the microseconds of the day. -/
def stamp (d : Date) (micros : Nat) : String :=
  Moment.dateText d ++ "T" ++ Moment.timeText micros ++ "+00:00"

/-- The places of a moment's text, behind its year. -/
def afterYear (d : Date) (micros : Nat) : List Char :=
  '-' :: ((Digits.padded 2 d.month).toList ++ '-' :: ((Digits.padded 2 d.day).toList ++ 'T' ::
    ((Digits.padded 2 (micros / 1000000 / 3600)).toList ++ ':' ::
      ((Digits.padded 2 (micros / 1000000 / 60 % 60)).toList ++ ':' ::
        ((Digits.padded 2 (micros / 1000000 % 60)).toList ++
          ((Moment.fractionText (micros % 1000000)).toList ++ ['+', '0', '0', ':', '0', '0']))))))

theorem stamp_toList (d : Date) (micros : Nat) :
    (stamp d micros).toList = (Moment.yearText d.year).toList ++ afterYear d micros := by
  unfold stamp Moment.dateText Moment.timeText afterYear
  simp [String.toList_append]

variable {d : Date} {micros : Nat}

/-- A day of the first ten thousand years with a time of that day is read as itself. -/
theorem timestamp?_stamp (hyear : 0 ≤ d.year ∧ d.year ≤ 9999) (hmonth : d.month ≤ 12)
    (hday : d.day ≤ 31) (hmicros : micros < Moment.microsPerDay)
    (hvalid : (⟨d, micros / 1000000 / 3600, micros / 1000000 / 60 % 60,
      micros / 1000000 % 60⟩ : DateTime).ValidAt 0) :
    timestamp? (stamp d micros) = some (⟨d, micros / 1000000 / 3600, micros / 1000000 / 60 % 60,
      micros / 1000000 % 60⟩, 0) := by
  have hdayLength : micros < 86400000000 := hmicros
  have two : ∀ n < 100, ∀ rest, number 2 2 ((Digits.padded 2 n).toList ++ rest) = some (n, rest) :=
    fun n hn rest => number_padded (by decide) hn rest
  have hyearRead : ∀ rest, number 4 4 ((Digits.padded 4 d.year.toNat).toList ++ rest) =
      some (d.year.toNat, rest) := number_padded (by decide) (by omega)
  have hmonthRead := two d.month (by omega)
  have hdayRead := two d.day (by omega)
  have hhourRead := two (micros / 1000000 / 3600) (by omega)
  have hminuteRead := two (micros / 1000000 / 60 % 60) (by omega)
  have hsecondRead := two (micros / 1000000 % 60) (by omega)
  have hfractionRead : fraction ((Moment.fractionText (micros % 1000000)).toList ++
      ['+', '0', '0', ':', '0', '0']) = some ['+', '0', '0', ':', '0', '0'] :=
    fraction_text (Nat.mod_lt _ (by decide)) (by decide) (noDigit_plus _)
  have hoffsetRead : timestampOffset ['+', '0', '0', ':', '0', '0'] = some (0, []) := by decide
  have hback : (⟨(d.year.toNat : Int), d.month, d.day⟩ : Date) = d := by
    rw [Int.toNat_of_nonneg hyear.1]
  unfold timestamp?
  rw [stamp_toList, Moment.yearText, if_pos hyear, afterYear]
  -- one place of the text after the other
  refine Option.bind_eq_some_iff.mpr ⟨_, hyearRead _, ?_⟩
  refine Option.bind_eq_some_iff.mpr ⟨_, exactly_self _ _, ?_⟩
  refine Option.bind_eq_some_iff.mpr ⟨_, hmonthRead _, ?_⟩
  refine Option.bind_eq_some_iff.mpr ⟨_, exactly_self _ _, ?_⟩
  refine Option.bind_eq_some_iff.mpr ⟨_, hdayRead _, ?_⟩
  dsimp only
  refine Option.bind_eq_some_iff.mpr ⟨_, rfl, ?_⟩
  refine Option.bind_eq_some_iff.mpr ⟨_, hhourRead _, ?_⟩
  refine Option.bind_eq_some_iff.mpr ⟨_, exactly_self _ _, ?_⟩
  refine Option.bind_eq_some_iff.mpr ⟨_, hminuteRead _, ?_⟩
  refine Option.bind_eq_some_iff.mpr ⟨_, exactly_self _ _, ?_⟩
  refine Option.bind_eq_some_iff.mpr ⟨_, hsecondRead _, ?_⟩
  refine Option.bind_eq_some_iff.mpr ⟨_, hfractionRead, ?_⟩
  refine Option.bind_eq_some_iff.mpr ⟨_, hoffsetRead, ?_⟩
  dsimp only
  rw [hback, if_pos ⟨rfl, hvalid⟩]

/-! ## Moments -/

/-- The moment that a timestamp denotes, in nanoseconds from the start of 1970. The places in front of the
fraction are fixed, and a leap second lies behind the second before it. -/
def instant? (s : String) : Option Int :=
  (timestamp? s).map fun (t, offset) =>
    (t.toSeconds - offset) * Duration.nanosPerSecond + fractionNanos (s.toList.drop 19) +
      if t.second = 60 then Duration.nanosPerSecond else 0

theorem fractionNanos_stamp (hyear : 0 ≤ d.year ∧ d.year ≤ 9999) (hmonth : d.month ≤ 12)
    (hday : d.day ≤ 31) (hmicros : micros < Moment.microsPerDay) :
    fractionNanos ((stamp d micros).toList.drop 19) = micros % 1000000 * 1000 := by
  have hdayLength : micros < 86400000000 := hmicros
  have two : ∀ n < 100, (Digits.padded 2 n).toList.length = 2 :=
    fun n hn => length_padded (by decide) hn
  have hfour : (Digits.padded 4 d.year.toNat).toList.length = 4 :=
    length_padded (by decide) (by omega)
  have hsplit : (stamp d micros).toList =
      ((Digits.padded 4 d.year.toNat).toList ++ '-' :: ((Digits.padded 2 d.month).toList ++ '-' ::
        ((Digits.padded 2 d.day).toList ++ 'T' ::
          ((Digits.padded 2 (micros / 1000000 / 3600)).toList ++ ':' ::
            ((Digits.padded 2 (micros / 1000000 / 60 % 60)).toList ++ ':' ::
              (Digits.padded 2 (micros / 1000000 % 60)).toList))))) ++
      ((Moment.fractionText (micros % 1000000)).toList ++ ['+', '0', '0', ':', '0', '0']) := by
    rw [stamp_toList, Moment.yearText, if_pos hyear, afterYear]
    simp
  rw [hsplit, List.drop_left' ?_]
  · exact fractionNanos_text (Nat.mod_lt _ (by decide)) (by decide) (noDigit_plus _)
  · simp only [List.length_append, List.length_cons, hfour, two d.month (by omega),
      two d.day (by omega), two (micros / 1000000 / 3600) (by omega),
      two (micros / 1000000 / 60 % 60) (by omega), two (micros / 1000000 % 60) (by omega)]

/-- A moment of the first ten thousand years is read as itself. -/
theorem instant?_stamp {days : Int} (hfirst : -719528 ≤ days) (hlast : days < 2932897)
    (hmicros : micros < Moment.microsPerDay) :
    instant? (stamp (.ofDays days) micros) = some ((days * Moment.microsPerDay + micros) * 1000) := by
  have hdayLength : micros < 86400000000 := hmicros
  obtain ⟨hmonth, hmonths, hday, hdays⟩ := Date.ofDays_inMonth days
  have hmonthLength : (Date.ofDays days).day ≤ 31 := by
    refine hdays.trans ?_
    unfold Date.daysIn
    split
    · split <;> decide
    · split <;> decide
  have hyear : 0 ≤ (Date.ofDays days).year ∧ (Date.ofDays days).year ≤ 9999 := by
    have hbefore := Date.year_ofDays_lt days 0
    have hbehind := Date.year_ofDays_lt days 25
    omega
  have hseconds : DateTime.toSeconds ⟨.ofDays days, micros / 1000000 / 3600,
      micros / 1000000 / 60 % 60, micros / 1000000 % 60⟩ = days * 86400 + (micros / 1000000 : Nat) := by
    unfold DateTime.toSeconds
    rw [Date.toDays_ofDays]
    dsimp only
    omega
  have hcounted : Date.minDays ≤ -719528 ∧ 2932897 ≤ Date.maxDays := by decide
  have hvalid : DateTime.ValidAt ⟨.ofDays days, micros / 1000000 / 3600,
      micros / 1000000 / 60 % 60, micros / 1000000 % 60⟩ 0 := by
    refine ⟨⟨⟨?_, ?_, hmonth, hmonths, hday, hdays⟩, ?_, ?_, ?_⟩, by decide, by decide, ?_, ?_⟩
    · exact le_trans (by decide) hyear.1
    · exact le_trans hyear.2 (by decide)
    · show micros / 1000000 / 3600 ≤ 23
      omega
    · show micros / 1000000 / 60 % 60 ≤ 59
      omega
    · show micros / 1000000 % 60 ≤ 60
      omega
    · rw [hseconds]
      omega
    · rw [hseconds]
      omega
  unfold instant?
  rw [timestamp?_stamp hyear hmonths hmonthLength hmicros hvalid, Option.map_some]
  dsimp only
  rw [fractionNanos_stamp hyear hmonths hmonthLength hmicros, hseconds, if_neg (by omega)]
  unfold Duration.nanosPerSecond Moment.microsPerDay
  congr 1
  push_cast
  omega

end Calendar

end TableFeed
