import TableFeed.Proofs.Sample.Stamps

/-!
# When the name of a weekday matters

A text may begin with the name of a weekday. In front of a layout any name is dropped, whatever day it
is. In front of the date of a message a short name has to be that of the day, and a long one is none at
all. So a text is a date behind each name or behind none, unless it is the date of a message and fits no
layout.

* **`messageDate?_eq`** — the date of a message is read behind its weekday, which is compared in the end.
* **`isMessageDate_named`** — a message's date behind a name.
* **`isLaidOut_named`** — the crux: what fits a layout behind one name does behind each of them.
* **`weekday_ignored_iff`** — the texts for which the name does not matter.
-/

namespace TableFeed

namespace Calendar

/-! ## The date of a message behind its weekday -/

/-- What stands behind the weekday of a message's date. -/
def messageBody? (cs : List Char) : Option (DateTime × Int) := do
  let (day, rest) ← number 1 2 (skipBlank cs)
  let (month, rest) ← shortName Date.monthNames (← blank rest)
  let rest ← blank rest
  let (year, rest') ← longNumber 2 rest
  let year := completeYear (rest.length - rest'.length) year
  let (hour, rest) ← number 2 2 (← blank rest')
  let rest ← exactly ':' (skipBlank rest)
  let (minute, rest) ← number 2 2 (skipBlank rest)
  let (second, rest) ← messageSeconds rest
  let (offset, rest) ← messageOffset (← blank rest)
  let t : DateTime := ⟨⟨year, month + 1, day⟩, hour, minute, second⟩
  if skipComments rest.length rest = [] ∧ t.ValidAt offset then some (t, offset) else none

/-- The parts of a message's date without a weekday. -/
def unnamedDate? (s : String) : Option (DateTime × Int) :=
  match shortName Date.weekdayNames (skipBlank s.toList) with
  | none => messageDate? s
  | some _ => none

/-- A condition on what is read is one behind each step of the reading. -/
theorem bind_eq_filter {α β : Type} {p : β → Bool} {f g : α → Option β} (o : Option α)
    (h : ∀ a, f a = (g a).filter p) : o.bind f = (o.bind g).filter p := by
  cases o with
  | none => rfl
  | some a => exact h a

theorem filter_ite {β : Type} {p : β → Bool} {b : β} {P Q : Prop} [Decidable P] [Decidable Q] :
    (if P ∧ Q then some b else none).filter p = if P ∧ Q ∧ p b = true then some b else none := by
  by_cases hboth : P ∧ Q
  · simp [hboth.1, hboth.2, Option.filter_some]
  · have hall : ¬ (P ∧ Q ∧ p b = true) := fun h => hboth ⟨h.1, h.2.1⟩
    rw [if_neg hboth, if_neg hall]
    rfl

/-- The weekday is compared when everything else has been read. -/
theorem messageDate?_eq (s : String) : messageDate? s =
    (messageWeekday (skipBlank s.toList)).bind fun (weekday, rest) =>
      (messageBody? rest).filter fun (t, _) => weekday.all (· = t.date.weekday) := by
  unfold messageDate? messageBody?
  refine congrArg _ (funext fun ⟨weekday, rest⟩ => ?_)
  -- twelve readers come before the comparison
  iterate 12
    refine bind_eq_filter _ fun _ => ?_
  rw [filter_ite]

variable {cs : List Char}

theorem messageBody?_congr {ds : List Char} (h : skipBlank cs = skipBlank ds) :
    messageBody? cs = messageBody? ds := by
  unfold messageBody?
  rw [h]

theorem messageBody?_nondigit (h : ∀ c ∈ (skipBlank cs).head?, c.isDigit = false) :
    messageBody? cs = none := by
  unfold messageBody?
  rw [Sample.number_nondigit (by decide) h]
  rfl

/-- No name begins with a digit. -/
theorem nondigit_of_shortName {names : List String} {p : ℕ × List Char}
    (hnames : ∀ name ∈ names, name.toList.head?.any Char.isDigit = false)
    (h : shortName names cs = some p) : ∀ c ∈ cs.head?, c.isDigit = false := by
  cases cs with
  | nil => exact nofun
  | cons c rest =>
    rintro d ⟨⟩
    refine Bool.eq_false_iff.mpr fun hdigit => ?_
    -- names are compared in lower case, which leaves a digit as it is
    have hlower : c.toLower = c := dif_neg (by grind [Char.isDigit])
    have hnone := Sample.shortName_front rest hlower fun name hname hhead => by
      have hfalse := hnames name hname
      rw [hhead, Option.any_some, hdigit] at hfalse
      cases hfalse
    rw [hnone] at h
    cases h

/-- Without a weekday the whole text is what stands behind one. -/
theorem unnamedDate?_eq (s : String) : unnamedDate? s = messageBody? s.toList := by
  unfold unnamedDate?
  cases hname : shortName Date.weekdayNames (skipBlank s.toList) with
  | some p => exact (messageBody?_nondigit (nondigit_of_shortName (by decide) hname)).symm
  | none =>
    have hweekday : messageWeekday (skipBlank s.toList) = some (none, skipBlank s.toList) := by
      unfold messageWeekday
      rw [hname]
    dsimp only
    rw [messageDate?_eq, hweekday, Option.bind_some]
    dsimp only
    have hskip : skipBlank (skipBlank s.toList) = skipBlank s.toList := List.dropWhile_idempotent _ _
    rw [messageBody?_congr hskip]
    cases messageBody? s.toList <;> rfl

theorem weekday_lt (d : Date) : d.weekday < 7 := by
  unfold Date.weekday
  omega

end Calendar

namespace Sample

open Calendar

/-! ## The names of the weekdays -/

/-- The English names of the weekdays from Monday. -/
def weekdays : List String :=
  ["Monday", "Tuesday", "Wednesday", "Thursday", "Friday", "Saturday", "Sunday"]

/-- A name of a weekday: its first three letters, or all of them. -/
structure WeekdayName where
  day : Fin 7
  full : Bool
  deriving DecidableEq, Repr

namespace WeekdayName

variable (w : WeekdayName)

/-- The first three letters. -/
def start : List Char :=
  (weekdays.get w.day).toList.take 3

/-- The letters behind the first three. -/
def ending : List Char :=
  if w.full then (weekdays.get w.day).toList.drop 3 else []

/-- The name. -/
def text : String :=
  String.ofList (w.start ++ w.ending)

/-- The date of a message may have this weekday in front of it. -/
def agrees (t : DateTime) : Bool :=
  !w.full && decide (w.day.val = t.date.weekday)

/-- The first three letters are those by which each form of a date knows the weekday. -/
theorem start_spec : w.start.length = 3 ∧ w.start ∈ weekdayStarts ∧
    (w.start.head?.all fun c => !Blank.isBlank c && !c.isDigit) = true ∧
    Date.weekdayNames.idxOf? (String.ofList (w.start.map Char.toLower)) = some w.day.val := by
  obtain ⟨day, full⟩ := w
  revert day full
  decide

/-- The other letters are small. -/
theorem ending_small : (w.ending.all fun c => decide ('a' ≤ c ∧ c ≤ 'z')) = true := by
  obtain ⟨day, full⟩ := w
  revert day full
  decide

theorem ending_short (h : w.full = false) : w.ending = [] := by
  unfold ending
  rw [h]
  rfl

/-- There are letters behind the first three of every name. -/
theorem ending_full (h : w.full = true) : w.ending ≠ [] := by
  obtain ⟨day, full⟩ := w
  revert day full
  decide

end WeekdayName

variable (w : WeekdayName) (r : String)

theorem toList_named : (w.text ++ ", " ++ r).toList =
    w.start ++ (w.ending ++ ',' :: ' ' :: r.toList) := by
  simp [WeekdayName.text]

/-! ## Message's dates -/

theorem shortName_start (rest : List Char) :
    shortName Date.weekdayNames (w.start ++ rest) = some (w.day.val, rest) := by
  obtain ⟨hlength, -, -, hname⟩ := w.start_spec
  unfold shortName
  dsimp only
  rw [← hlength, List.take_left, List.drop_left, hname]

theorem messageWeekday_start (rest : List Char) :
    messageWeekday (w.start ++ rest) = (exactly ',' rest).map (some w.day.val, ·) := by
  unfold messageWeekday
  rw [shortName_start]

theorem head_start (rest : List Char) :
    ∀ c ∈ (w.start ++ rest).head?, Blank.isBlank c = false ∧ c.isDigit = false := by
  obtain ⟨hlength, -, hhead, -⟩ := w.start_spec
  obtain ⟨c, tail, hstart⟩ := List.exists_cons_of_length_pos (by omega : 0 < w.start.length)
  rw [hstart] at hhead ⊢
  rintro d ⟨⟩
  simpa using hhead

/-- Nothing that begins with a letter is a timestamp. -/
theorem not_isTimestamp_named : isTimestamp (w.text ++ ", " ++ r) = false := by
  unfold isTimestamp timestamp?
  rw [toList_named, number_nondigit (by decide) fun c hc => (head_start w _ c hc).2]
  rfl

/-- A short name in front of a message's date has to be the one of the day; a full name is none. -/
theorem isMessageDate_named : isMessageDate (w.text ++ ", " ++ r) =
    (unnamedDate? r).any fun p => w.agrees p.1 := by
  have hskip : skipBlank (w.start ++ (w.ending ++ ',' :: ' ' :: r.toList)) =
      w.start ++ (w.ending ++ ',' :: ' ' :: r.toList) :=
    Blank.dropWhile_front (List.forall_mem_nil _) fun c hc => (head_start w _ c hc).1
  unfold isMessageDate
  rw [messageDate?_eq, toList_named, hskip, messageWeekday_start]
  cases hfull : w.full with
  | true =>
    -- a letter stands where the comma is looked for
    obtain ⟨c, tail, hending⟩ := List.exists_cons_of_ne_nil (w.ending_full hfull)
    have hmem : c ∈ w.ending := by
      rw [hending]
      exact List.mem_cons_self
    have hsmall := (of_decide_eq_true (List.all_eq_true.mp w.ending_small c hmem)).1
    have hcomma : exactly ',' (w.ending ++ ',' :: ' ' :: r.toList) = none := by
      rw [hending]
      refine if_neg ?_
      rintro rfl
      exact absurd hsmall (by decide)
    rw [hcomma]
    simp [WeekdayName.agrees, hfull]
  | false =>
    -- the comma stands right behind the name, and the rest is read as without one
    have hcomma : exactly ',' (w.ending ++ ',' :: ' ' :: r.toList) = some (' ' :: r.toList) := by
      rw [w.ending_short hfull]
      rfl
    have hblank : skipBlank (' ' :: r.toList) = skipBlank r.toList :=
      List.dropWhile_cons_of_pos (by decide)
    rw [hcomma, Option.map_some, Option.bind_some]
    dsimp only
    rw [messageBody?_congr hblank, ← unnamedDate?_eq, Option.isSome_filter]
    simp [WeekdayName.agrees, hfull]

/-! ## Layouts -/

/-- What stands behind a weekday fits a layout. -/
def isLaidOutBehind (s : String) : Bool :=
  isLaidOut (Blank.collapse (dropZonesFrom [] (Blank.trimChars s.toList)))

/-- What follows the first three letters and the comma is left, if white space stands in front of it. -/
theorem dropWeekday_named {cs : List Char} (hcs : ∀ c ∈ cs.head?, Blank.isBlank c = false)
    {before : List Char} (hbefore : ∀ c ∈ before, Blank.isBlank c = true) :
    dropWeekday (w.start ++ (w.ending ++ ',' :: ' ' :: (before ++ cs))) = cs := by
  obtain ⟨hlength, hmem, -, -⟩ := w.start_spec
  have hcomma : ∀ c ∈ (',' :: ' ' :: (before ++ cs)).head?, decide ('a' ≤ c ∧ c ≤ 'z') = false := by
    rintro c ⟨⟩
    decide
  have hletters := Blank.dropWhile_front (List.all_eq_true.mp w.ending_small) hcomma
  have hspace := Blank.dropWhile_front
    (List.forall_mem_cons.mpr ⟨(by decide : Blank.isBlank ' ' = true), hbefore⟩) hcs
  unfold dropWeekday
  rw [← hlength, List.take_left, List.drop_left, if_pos hmem]
  dsimp only
  rw [hletters]
  exact hspace

/-- What fits a layout behind one name does behind each of them. -/
theorem isLaidOut_named :
    isLaidOut (normalize (w.text ++ ", " ++ r).toList) = isLaidOutBehind r := by
  by_cases hblank : ∀ c ∈ r.toList, Blank.isBlank c = true
  · -- neither the name alone nor nothing at all has a colon
    have hnothing : isLaidOutBehind r = false := by
      unfold isLaidOutBehind Blank.trimChars
      rw [Blank.trimBy_eq_nil.mpr hblank]
      rfl
    rw [hnothing, Bool.eq_false_iff]
    intro hlaid
    have hcolon := (mem_normalize (colon_of_isLaidOut hlaid)).resolve_left (by decide)
    rw [toList_named] at hcolon
    rcases List.mem_append.mp hcolon with hstart | hcolon
    · have hstarts : ∀ start ∈ weekdayStarts, ':' ∉ start := by decide
      exact hstarts _ w.start_spec.2.1 hstart
    · rcases List.mem_append.mp hcolon with hending | hcolon
      · exact absurd (List.all_eq_true.mp w.ending_small ':' hending) (by decide)
      · have hspace := (List.mem_cons.mp hcolon).resolve_left (by decide)
        have hrest := (List.mem_cons.mp hspace).resolve_left (by decide)
        exact absurd (hblank ':' hrest) (by decide)
  · -- the name stays in front of what is trimmed, and takes the white space with it
    have hfront : ∀ c ∈ (w.start ++ (w.ending ++ [',', ' '])).head?, Blank.isBlank c = false :=
      fun c hc => (head_start w _ c hc).1
    obtain ⟨before, hbefore, htrim, hhead⟩ := Blank.trimBy_behind (by simp) hfront hblank
    have hassoc : ∀ cs, (w.start ++ (w.ending ++ [',', ' '])) ++ cs =
        w.start ++ (w.ending ++ ',' :: ' ' :: cs) := by simp
    rw [hassoc, hassoc] at htrim
    unfold normalize Blank.trimChars
    rw [toList_named, htrim, dropWeekday_named w hhead hbefore]
    rfl

/-- A text is a date behind a name by fitting a layout or by being a message's date of the day. -/
theorem isDate_named : isDate (w.text ++ ", " ++ r) =
    (isLaidOutBehind r || (unnamedDate? r).any fun p => w.agrees p.1) := by
  rw [isDate_eq, not_isTimestamp_named, isMessageDate_named, isLaidOut_named, Bool.false_or,
    Bool.or_comm]

/-- **Which texts are dates behind every name of a weekday or behind none.** Behind a name a text is a date
if it fits a layout, and behind a short name also if it is the date of a message and of that weekday. So the
name does not matter just if the text fits a layout or is no date of a message without a weekday. -/
theorem weekday_ignored_iff (r : String) :
    (∀ w : WeekdayName, isDate (w.text ++ ", " ++ r) =
      (isLaidOutBehind r || (unnamedDate? r).any fun p => w.agrees p.1)) ∧
    ((∀ w v : WeekdayName, isDate (w.text ++ ", " ++ r) = isDate (v.text ++ ", " ++ r)) ↔
      isLaidOutBehind r = true ∨ unnamedDate? r = none) := by
  refine ⟨fun w => isDate_named w r, ?_⟩
  constructor
  · intro hsame
    cases hdate : unnamedDate? r with
    | none => exact .inr rfl
    | some p =>
      -- the short name of the day and its full name are taken alike
      have hname := hsame ⟨⟨p.1.date.weekday, weekday_lt _⟩, false⟩ ⟨0, true⟩
      rw [isDate_named, isDate_named, hdate] at hname
      refine .inl ?_
      simpa [WeekdayName.agrees] using hname
  · rintro (hlaid | hnone) w v
    · rw [isDate_named, isDate_named, hlaid, Bool.true_or, Bool.true_or]
    · rw [isDate_named, isDate_named, hnone]
      rfl

/-- The second of January 2006 was a Monday. -/
theorem weekday_matters :
    isDate (WeekdayName.text ⟨0, false⟩ ++ ", " ++ "02 Jan 2006 15:04 +0000") = true ∧
      isDate (WeekdayName.text ⟨1, false⟩ ++ ", " ++ "02 Jan 2006 15:04 +0000") = false := by
  decide +kernel

end Sample

end TableFeed
