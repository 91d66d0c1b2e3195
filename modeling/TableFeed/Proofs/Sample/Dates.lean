import Mathlib.Data.List.Infix
import TableFeed.Sample

/-!
# Every date shows a clock

A text is a date only if it shows hours and minutes with a colon between them, in each of the usual
forms. Readers of parts take characters off the front of a text, and the colon is the one character
that all of them have to find there.

* **`Part.read_suffix`** — a part of a layout leaves an end of the text.
* **`mem_of_fits`** — so a text that fits a layout has all its literal characters.
* **`mem_normalize`** — normalizing puts spaces into a text and nothing else.
* **`isDate_eq`** — the three ways in which a text is a date.
* **`colon_of_isDate`** — the crux: there is a colon in every date.
-/

namespace TableFeed

namespace Calendar

/-! ## Readers leave an end of the text -/

theorem exactly_eq {c : Char} {cs rest : List Char} (h : exactly c cs = some rest) :
    cs = c :: rest := by
  unfold exactly at h
  split at h
  · cases h
  · split at h
    · rename_i hd
      rw [hd, Option.some.inj h]
    · cases h

theorem skipBlank_suffix (cs : List Char) : skipBlank cs <:+ cs :=
  List.dropWhile_suffix _

theorem blank_suffix {cs rest : List Char} (h : blank cs = some rest) : rest <:+ cs := by
  unfold blank at h
  split at h
  · cases h
  · split at h
    · rw [← Option.some.inj h]
      exact skipBlank_suffix _
    · cases h

theorem number_suffix {least most n : Nat} {cs rest : List Char}
    (h : number least most cs = some (n, rest)) : rest <:+ cs := by
  unfold number at h
  dsimp only at h
  split at h
  · cases h
  · rw [← (Prod.mk.inj (Option.some.inj h)).2]
    exact List.drop_suffix _ _

theorem shortName_suffix {names : List String} {i : Nat} {cs rest : List Char}
    (h : shortName names cs = some (i, rest)) : rest <:+ cs := by
  unfold shortName at h
  dsimp only at h
  split at h
  · rw [← (Prod.mk.inj (Option.some.inj h)).2]
    exact List.drop_suffix _ _
  · cases h

/-- What a reader leaves does not depend on what is made of its result. -/
theorem suffix_of_map {α β : Type} {scan : Scan α} {f : α × List Char → β × List Char} {b : β}
    {cs rest : List Char} (h : scan.map f = some (b, rest)) (hf : ∀ p, (f p).2 = p.2)
    (hscan : ∀ {a rest}, scan = some (a, rest) → rest <:+ cs) : rest <:+ cs := by
  obtain ⟨⟨a, tail⟩, ha, heq⟩ := Option.map_eq_some_iff.mp h
  have htail : rest = tail := (congrArg Prod.snd heq).symm.trans (hf (a, tail))
  exact htail ▸ hscan ha

theorem signedYear_suffix {n : Int} {cs rest : List Char} (h : signedYear cs = some (n, rest)) :
    rest <:+ cs := by
  unfold signedYear at h
  split at h
  · exact (suffix_of_map h (fun _ => rfl) number_suffix).trans (List.suffix_cons _ _)
  · exact (suffix_of_map h (fun _ => rfl) number_suffix).trans (List.suffix_cons _ _)
  · exact suffix_of_map h (fun _ => rfl) number_suffix

theorem fraction_suffix {cs rest : List Char} (h : fraction cs = some rest) : rest <:+ cs := by
  unfold fraction at h
  split at h
  · obtain ⟨⟨k, rest⟩, hk, rfl⟩ := Option.map_eq_some_iff.mp h
    exact (number_suffix hk).trans (List.suffix_cons _ _)
  · rw [Option.some.inj h]

theorem sign_suffix {minus negative : Bool} {cs rest : List Char}
    (h : sign minus cs = some (negative, rest)) : rest <:+ cs := by
  unfold sign at h
  split at h
  · rw [← (Prod.mk.inj (Option.some.inj h)).2]
    exact List.suffix_cons _ _
  · rw [← (Prod.mk.inj (Option.some.inj h)).2]
    exact List.suffix_cons _ _
  · split at h
    · rw [← (Prod.mk.inj (Option.some.inj h)).2]
      exact List.suffix_cons _ _
    · cases h
  · cases h

theorem offset_suffix {minus : Bool} {between : List Char → Option (List Char)} {n : Int}
    {cs rest : List Char} (hbetween : ∀ {cs rest}, between cs = some rest → rest <:+ cs)
    (h : offset minus between cs = some (n, rest)) : rest <:+ cs := by
  unfold offset at h
  obtain ⟨⟨negative, rest₁⟩, hsign, h⟩ := Option.bind_eq_some_iff.mp h
  obtain ⟨⟨hours, rest₂⟩, hhours, h⟩ := Option.bind_eq_some_iff.mp h
  obtain ⟨rest₃, hcolon, h⟩ := Option.bind_eq_some_iff.mp h
  obtain ⟨⟨minutes, rest₄⟩, hminutes, h⟩ := Option.bind_eq_some_iff.mp h
  dsimp only at hhours hcolon hminutes h
  split at h
  · cases h
  · rw [← (Prod.mk.inj (Option.some.inj h)).2]
    exact (number_suffix hminutes).trans
      ((hbetween hcolon).trans ((number_suffix hhours).trans (sign_suffix hsign)))

/-! ## Layouts -/

variable {r r' : Reading} {cs rest : List Char}

theorem skipColons_suffix (h : skipColons cs = some rest) : rest <:+ cs := by
  rw [← Option.some.inj h]
  exact List.dropWhile_suffix _

theorem Part.read_suffix {p : Part} (h : p.read r cs = some (r', rest)) : rest <:+ cs := by
  have hblank := skipBlank_suffix cs
  cases p with
  | literal c =>
    obtain ⟨tail, hexact, heq⟩ := Option.map_eq_some_iff.mp h
    rw [exactly_eq hexact, ← (Prod.mk.inj heq).2]
    exact List.suffix_cons _ _
  | space =>
    rw [← (Prod.mk.inj (Option.some.inj h)).2]
    exact hblank
  | fraction =>
    obtain ⟨tail, hfraction, heq⟩ := Option.map_eq_some_iff.mp h
    rw [← (Prod.mk.inj heq).2]
    exact fraction_suffix hfraction
  | month => exact suffix_of_map h (fun _ => rfl) shortName_suffix
  | year => exact (suffix_of_map h (fun _ => rfl) signedYear_suffix).trans hblank
  | offset =>
    exact (suffix_of_map h (fun _ => rfl) (offset_suffix skipColons_suffix)).trans hblank
  | shortYear => exact (suffix_of_map h (fun _ => rfl) number_suffix).trans hblank
  | day => exact (suffix_of_map h (fun _ => rfl) number_suffix).trans hblank
  | hour => exact (suffix_of_map h (fun _ => rfl) number_suffix).trans hblank
  | minute => exact (suffix_of_map h (fun _ => rfl) number_suffix).trans hblank
  | second => exact (suffix_of_map h (fun _ => rfl) number_suffix).trans hblank

theorem mem_of_readParts {c : Char} {parts : List Part} (hc : .literal c ∈ parts)
    (h : readParts parts r cs = some r') : c ∈ cs := by
  induction parts generalizing r cs with
  | nil => cases hc
  | cons p ps ih =>
    rw [readParts] at h
    split at h
    · cases h
    · rename_i r₁ rest hread
      rcases List.mem_cons.mp hc with rfl | hc
      · obtain ⟨tail, hexact, -⟩ := Option.map_eq_some_iff.mp hread
        rw [exactly_eq hexact]
        exact List.mem_cons_self
      · exact (Part.read_suffix hread).subset (ih hc h)

theorem mem_of_fits {c : Char} {layout : List Part} (hc : .literal c ∈ layout)
    (h : fits layout cs = true) : c ∈ cs := by
  unfold fits at h
  split at h
  · cases h
  · rename_i hread
    exact mem_of_readParts hc hread

/-! ## Standard forms -/

theorem colon_of_clock {α : Type} {next : Nat × List Char → List Char → Option α} {a : α}
    (h : ((number 2 2 cs).bind fun p => (exactly ':' p.2).bind (next p)) = some a) : ':' ∈ cs := by
  obtain ⟨⟨hour, afterHour⟩, hhour, h⟩ := Option.bind_eq_some_iff.mp h
  obtain ⟨beforeMinute, hcolon, -⟩ := Option.bind_eq_some_iff.mp h
  refine (number_suffix hhour).subset ?_
  rw [show afterHour = ':' :: beforeMinute from exactly_eq hcolon]
  exact List.mem_cons_self

theorem colon_of_timestamp {s : String} {t : DateTime × Int} (h : timestamp? s = some t) :
    ':' ∈ s.toList := by
  unfold timestamp? at h
  obtain ⟨⟨year, afterYear⟩, hyear, h⟩ := Option.bind_eq_some_iff.mp h
  obtain ⟨beforeMonth, hdash, h⟩ := Option.bind_eq_some_iff.mp h
  obtain ⟨⟨month, afterMonth⟩, hmonth, h⟩ := Option.bind_eq_some_iff.mp h
  obtain ⟨beforeDay, hdash', h⟩ := Option.bind_eq_some_iff.mp h
  obtain ⟨⟨day, afterDay⟩, hday, h⟩ := Option.bind_eq_some_iff.mp h
  dsimp only at hdash hmonth hdash' hday h
  have hafter : ':' ∈ afterDay := by
    -- a mark of three kinds stands in front of the time
    split at h
    · exact List.mem_cons_of_mem _ (colon_of_clock h)
    · exact List.mem_cons_of_mem _ (colon_of_clock h)
    · exact List.mem_cons_of_mem _ (colon_of_clock h)
    · cases h
  rw [exactly_eq hdash] at hyear
  rw [exactly_eq hdash'] at hmonth
  refine (number_suffix hyear).subset (List.mem_cons_of_mem _ ?_)
  refine (number_suffix hmonth).subset (List.mem_cons_of_mem _ ?_)
  exact (number_suffix hday).subset hafter

theorem messageWeekday_suffix {weekday : Option Nat}
    (h : messageWeekday cs = some (weekday, rest)) : rest <:+ cs := by
  unfold messageWeekday at h
  split at h
  · rw [← (Prod.mk.inj (Option.some.inj h)).2]
  · rename_i hname
    obtain ⟨tail, hcomma, heq⟩ := Option.map_eq_some_iff.mp h
    refine List.IsSuffix.trans ?_ (shortName_suffix hname)
    rw [exactly_eq hcomma, ← (Prod.mk.inj heq).2]
    exact List.suffix_cons _ _

theorem colon_of_messageDate {s : String} {t : DateTime × Int} (h : messageDate? s = some t) :
    ':' ∈ s.toList := by
  unfold messageDate? at h
  obtain ⟨⟨weekday, afterWeekday⟩, hweekday, h⟩ := Option.bind_eq_some_iff.mp h
  obtain ⟨⟨day, afterDay⟩, hday, h⟩ := Option.bind_eq_some_iff.mp h
  obtain ⟨beforeMonth, hmonthGap, h⟩ := Option.bind_eq_some_iff.mp h
  obtain ⟨⟨month, afterMonth⟩, hmonth, h⟩ := Option.bind_eq_some_iff.mp h
  obtain ⟨beforeYear, hyearGap, h⟩ := Option.bind_eq_some_iff.mp h
  obtain ⟨⟨year, afterYear⟩, hyear, h⟩ := Option.bind_eq_some_iff.mp h
  obtain ⟨beforeHour, hhourGap, h⟩ := Option.bind_eq_some_iff.mp h
  obtain ⟨⟨hour, afterHour⟩, hhour, h⟩ := Option.bind_eq_some_iff.mp h
  obtain ⟨beforeMinute, hcolon, -⟩ := Option.bind_eq_some_iff.mp h
  have hfront : afterHour <:+ s.toList := calc
    afterHour <:+ beforeHour := number_suffix hhour
    _ <:+ afterYear := blank_suffix hhourGap
    _ <:+ beforeYear := number_suffix hyear
    _ <:+ afterMonth := blank_suffix hyearGap
    _ <:+ beforeMonth := shortName_suffix hmonth
    _ <:+ afterDay := blank_suffix hmonthGap
    _ <:+ skipBlank afterWeekday := number_suffix hday
    _ <:+ afterWeekday := skipBlank_suffix _
    _ <:+ skipBlank s.toList := messageWeekday_suffix hweekday
    _ <:+ s.toList := skipBlank_suffix _
  refine hfront.subset ((skipBlank_suffix _).subset ?_)
  rw [exactly_eq hcolon]
  exact List.mem_cons_self

end Calendar

namespace Sample

open Calendar

/-! ## Normalized texts -/

variable {front cs : List Char}

theorem mem_wordsFrom {c : Char} {word : List Char} (hword : word ∈ Blank.wordsFrom front cs)
    (hc : c ∈ word) : c ∈ front ∨ c ∈ cs := by
  fun_induction Blank.wordsFrom front cs with
  | case1 => cases hword
  | case2 front =>
    rw [List.mem_singleton.mp hword, List.mem_reverse] at hc
    exact .inl hc
  | case3 c' rest hblank ih => exact (ih hword).imp_right (List.mem_cons_of_mem c')
  | case4 c' rest hblank d ds ih =>
    rcases List.mem_cons.mp hword with rfl | hword
    · exact .inl (List.mem_reverse.mp hc)
    · exact .inr (List.mem_cons_of_mem c' ((ih hword).resolve_left (List.not_mem_nil)))
  | case5 front c' rest hblank ih =>
    rcases ih hword with hc | hc
    · rcases List.mem_cons.mp hc with rfl | hc
      · exact .inr List.mem_cons_self
      · exact .inl hc
    · exact .inr (List.mem_cons_of_mem c' hc)

theorem mem_joined {c : Char} {words : List (List Char)} (h : c ∈ [' '].intercalate words) :
    c = ' ' ∨ ∃ word ∈ words, c ∈ word := by
  induction words with
  | nil => cases h
  | cons word words ih =>
    cases words with
    | nil => exact .inr ⟨word, List.mem_cons_self, by simpa using h⟩
    | cons next words =>
      rw [List.intercalate_cons_cons] at h
      rcases List.mem_append.mp h with h | h
      · rcases List.mem_append.mp h with hc | hspace
        · exact .inr ⟨word, List.mem_cons_self, hc⟩
        · exact .inl (List.mem_singleton.mp hspace)
      · exact (ih h).imp_right fun ⟨w, hw, hc⟩ => ⟨w, List.mem_cons_of_mem _ hw, hc⟩

theorem mem_collapse {c : Char} (h : c ∈ Blank.collapse cs) : c = ' ' ∨ c ∈ cs := by
  refine (mem_joined h).imp_right fun ⟨word, hword, hc⟩ => ?_
  exact (mem_wordsFrom hword hc).resolve_left List.not_mem_nil

theorem dropWeekday_suffix (cs : List Char) : dropWeekday cs <:+ cs := by
  unfold dropWeekday
  split
  · have hletters := (List.dropWhile_suffix fun c => decide ('a' ≤ c ∧ c ≤ 'z')).trans
      (List.drop_suffix 3 cs)
    dsimp only
    split
    · split
      · refine (List.dropWhile_suffix _).trans ?_
        split
        · rename_i hcomma
          rw [hcomma] at hletters
          exact (List.suffix_cons _ _).trans hletters
        · exact hletters
      · exact List.suffix_refl cs
    · exact List.suffix_refl cs
  · exact List.suffix_refl cs

theorem mem_wordText {c : Char} {word : List Char} (h : c ∈ wordText word) : c = ' ' ∨ c ∈ word := by
  unfold wordText at h
  split at h
  · exact .inl (List.mem_singleton.mp h)
  · exact .inr (List.mem_reverse.mp h)

theorem mem_dropZonesFrom {c : Char} {word : List Char} (h : c ∈ dropZonesFrom word cs) :
    c = ' ' ∨ c ∈ word ∨ c ∈ cs := by
  fun_induction dropZonesFrom word cs with
  | case1 word => exact (mem_wordText h).imp_right .inl
  | case2 word d rest hword ih =>
    rcases ih h with hspace | hc | hc
    · exact .inl hspace
    · rcases List.mem_cons.mp hc with rfl | hc
      · exact .inr (.inr List.mem_cons_self)
      · exact .inr (.inl hc)
    · exact .inr (.inr (List.mem_cons_of_mem d hc))
  | case3 word d rest hword ih =>
    rcases List.mem_append.mp h with hc | hc
    · exact (mem_wordText hc).imp_right .inl
    · rcases List.mem_cons.mp hc with rfl | hc
      · exact .inr (.inr List.mem_cons_self)
      · rcases ih hc with hspace | hnone | hc
        · exact .inl hspace
        · cases hnone
        · exact .inr (.inr (List.mem_cons_of_mem d hc))

theorem mem_trimChars {c : Char} (h : c ∈ Blank.trimChars cs) : c ∈ cs := by
  have hback := (List.dropWhile_suffix _).subset (List.mem_reverse.mp h)
  exact (List.dropWhile_suffix _).subset (List.mem_reverse.mp hback)

theorem mem_normalize {c : Char} (h : c ∈ normalize cs) : c = ' ' ∨ c ∈ cs := by
  rcases mem_collapse h with hspace | hc
  · exact .inl hspace
  · rcases mem_dropZonesFrom hc with hspace | hnone | hc
    · exact .inl hspace
    · cases hnone
    · exact .inr (mem_trimChars ((dropWeekday_suffix _).subset hc))

/-! ## Dates -/

/-- A normalized text that fits a layout. -/
def isLaidOut (cs : List Char) : Bool :=
  !cs.isEmpty && (layouts.any (fits · cs) || fits stampLayout (stampYear ++ cs))

theorem isDate_eq (s : String) :
    isDate s = (isTimestamp s || isMessageDate s || isLaidOut (normalize s.toList)) :=
  rfl

theorem colon_of_isLaidOut (h : isLaidOut cs = true) : ':' ∈ cs := by
  rcases Bool.or_eq_true_iff.mp (Bool.and_eq_true_iff.mp h).2 with h | h
  · obtain ⟨layout, hmem, hfits⟩ := List.any_eq_true.mp h
    have hlayouts : ∀ layout ∈ layouts, .literal ':' ∈ layout := by decide
    exact mem_of_fits (hlayouts layout hmem) hfits
  · -- the year in front of a stamp has no colon
    have hstamp : .literal ':' ∈ stampLayout := by decide
    rcases List.mem_append.mp (mem_of_fits hstamp h) with hyear | hc
    · exact absurd hyear (by decide)
    · exact hc

/-- There is a colon in every date. -/
theorem colon_of_isDate {s : String} (h : isDate s = true) : ':' ∈ s.toList := by
  rw [isDate_eq] at h
  rcases Bool.or_eq_true_iff.mp h with h | h
  · rcases Bool.or_eq_true_iff.mp h with h | h
    · obtain ⟨t, ht⟩ := Option.isSome_iff_exists.mp h
      exact colon_of_timestamp ht
    · obtain ⟨t, ht⟩ := Option.isSome_iff_exists.mp h
      exact colon_of_messageDate ht
  · exact (mem_normalize (colon_of_isLaidOut h)).resolve_left (by decide)

end Sample

end TableFeed
