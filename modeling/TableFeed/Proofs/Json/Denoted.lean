import TableFeed.Proofs.Json.Written

/-!
# What a text denotes, by its parts

What an array or an object denotes is put together from what its parts denote. The texts that are
written are of the grammar: a quoted text is a string that denotes it, and a finite number is a number
that denotes a finite number. And what is accepted as a number alone is one.

* **`denoted?_items`**, **`denoted?_members`** — arrays and objects.
* **`quoted_text`**, **`float_text`** — texts that are written.
* **`isNumber_sound`** — a text that is accepted as a number.
-/

namespace TableFeed.Json

open Read

/-! ## Outcomes of lists -/

section

variable {α β : Type} {f : α → Option β}

theorem isSome_mapM (l : List α) : (l.mapM f).isSome = true ↔ ∀ a ∈ l, (f a).isSome = true := by
  induction l with
  | nil => exact iff_of_true rfl (List.forall_mem_nil _)
  | cons a l ih =>
    rw [List.forall_mem_cons, ← ih, List.mapM_cons]
    cases f a with
    | none => exact iff_of_false (fun h => nomatch h) fun h => nomatch h.1
    | some b =>
      show ((l.mapM f).bind fun bs => some (b :: bs)).isSome = true ↔ _
      cases l.mapM f with
      | none => exact iff_of_false (fun h => nomatch h) fun h => nomatch h.2
      | some bs => exact iff_of_true rfl ⟨rfl, rfl⟩

theorem mem_of_mapM {l : List α} {bs : List β} (h : l.mapM f = some bs) {b : β} (hb : b ∈ bs) :
    ∃ a ∈ l, f a = some b := by
  induction l generalizing bs with
  | nil =>
    obtain rfl := Option.some.inj h
    cases hb
  | cons a l ih =>
    rw [List.mapM_cons] at h
    obtain ⟨c, hc, h⟩ := Option.bind_eq_some_iff.mp h
    obtain ⟨cs, hcs, h⟩ := Option.bind_eq_some_iff.mp h
    obtain rfl := Option.some.inj h
    rcases List.mem_cons.mp hb with rfl | hb
    · exact ⟨a, List.mem_cons_self, hc⟩
    · obtain ⟨a', ha', heq⟩ := ih hcs hb
      exact ⟨a', List.mem_cons_of_mem a ha', heq⟩

theorem mapM_mem {l : List α} {bs : List β} (h : l.mapM f = some bs) {a : α} (ha : a ∈ l) :
    ∃ b ∈ bs, f a = some b := by
  induction l generalizing bs with
  | nil => cases ha
  | cons a' l ih =>
    rw [List.mapM_cons] at h
    obtain ⟨c, hc, h⟩ := Option.bind_eq_some_iff.mp h
    obtain ⟨cs, hcs, h⟩ := Option.bind_eq_some_iff.mp h
    obtain rfl := Option.some.inj h
    rcases List.mem_cons.mp ha with rfl | ha
    · exact ⟨c, List.mem_cons_self, hc⟩
    · obtain ⟨b, hb, heq⟩ := ih hcs ha
      exact ⟨b, List.mem_cons_of_mem c hb, heq⟩

end

/-! ## Arrays and objects -/

variable {d : Nat} {space : List Char}

theorem denoted?_items {its : List Item} (hspace : IsSpacing space)
    (hits : ∀ i ∈ its, i.Spaced ∧ Written d i.value) (hd : d < maxDepth) :
    denoted? ('[' :: (space ++ itemsText true its)) =
      (its.mapM fun i => denoted? i.value).map .array := by
  refine denoted?_eq (array_settles hspace fun i hi => ?_)
  obtain ⟨hspaced, hvalue⟩ := hits i hi
  exact ⟨hspaced, written_leads hvalue, settles_denoted hvalue hd.le (Nat.le_sub_one_of_lt hd)⟩

theorem denoted?_members {ms : List Member} (hspace : IsSpacing space)
    (hms : ∀ m ∈ ms, m.Proper ∧ Written d m.item.value) (hd : d < maxDepth) :
    denoted? ('\x7b' :: (space ++ membersText true ms)) =
      objectOutcome Member.name? Member.value? ms := by
  refine denoted?_eq (object_settles hspace fun m hm => ?_)
  obtain ⟨hproper, hvalue⟩ := hms m hm
  exact ⟨hproper, (settles_text hproper.name).1,
    settles_denoted hvalue hd.le (Nat.le_sub_one_of_lt hd)⟩

/-! ## Texts that are written -/

theorem letter_of_simpleEscape {letter : Char} (hsmall : letter.toNat < 128) {b : UInt8}
    (h : simpleEscape? (ascii letter) = some b) : letter ∈ Piece.letters := by
  have hmem : ascii letter ∈ Piece.letters.map ascii := by
    unfold simpleEscape? at h
    by_contra hnone
    simp only [Piece.letters, List.map_cons, List.map_nil, List.mem_cons, List.not_mem_nil,
      or_false, not_or] at hnone
    obtain ⟨hquote, hslash, hsolidus, hb, hf, hn, hr, ht⟩ := hnone
    rw [if_neg (by simp [hquote, hslash, hsolidus]), if_neg hb, if_neg hf, if_neg hn, if_neg hr,
      if_neg ht] at h
    cases h
  obtain ⟨l, hl, heq⟩ := List.mem_map.mp hmem
  have hsmall' : l.toNat < 128 := (letter_cases hl).1
  rwa [← (ascii_inj hsmall' hsmall).mp heq]

/-- A character is written as a piece of the grammar. -/
theorem escape_piece (c : Char) : ∃ p : Piece, p.Proper ∧ p.text = escape c := by
  rcases escape_cases c with ⟨letter, heq, -, hletter, -, hsimple⟩ | ⟨hlow, heq⟩ |
    ⟨hquote, hslash, hlow, heq⟩
  · exact ⟨.escape letter, letter_of_simpleEscape hletter hsimple, heq.symm⟩
  · -- a control character, by its two hexadecimal digits
    have hdigit : ∀ n, n < 16 → (Digits.hexValue? (Digits.hexDigit n)).isSome = true := by decide
    refine ⟨.unicode '0' '0' (Digits.hexDigit (c.toNat / 16)) (Digits.hexDigit (c.toNat % 16)), ?_,
      heq.symm⟩
    intro digit hmem
    simp only [List.mem_cons, List.not_mem_nil, or_false] at hmem
    rcases hmem with rfl | rfl | rfl | rfl
    · decide
    · decide
    · exact hdigit _ (by omega)
    · exact hdigit _ (by omega)
  · exact ⟨.plain c, ⟨hquote, hslash, hlow⟩, heq.symm⟩

theorem denoted?_quote (s : String) : denoted? (quoteChars s.toList) = some (.string s) := by
  have hparse := parse_render (reads_string maxDepth s)
  rw [render, renderChars] at hparse
  rw [denoted?, hparse]
  rfl

/-- A quoted text is a string of the grammar, and denotes the text. -/
theorem quoted_text (s : String) : ∃ pieces : List Piece, (∀ p ∈ pieces, p.Proper) ∧
    stringText pieces = quoteChars s.toList ∧ text? pieces = some s := by
  obtain ⟨pieces, hproper, htext⟩ : ∃ pieces : List Piece, (∀ p ∈ pieces, p.Proper) ∧
      pieces.flatMap Piece.text = s.toList.flatMap escape := by
    induction s.toList with
    | nil => exact ⟨[], List.forall_mem_nil _, rfl⟩
    | cons c cs ih =>
      obtain ⟨p, hp, hpiece⟩ := escape_piece c
      obtain ⟨pieces, hproper, htext⟩ := ih
      refine ⟨p :: pieces, List.forall_mem_cons.mpr ⟨hp, hproper⟩, ?_⟩
      rw [List.flatMap_cons, List.flatMap_cons, hpiece, htext]
  have hquoted : stringText pieces = quoteChars s.toList := by
    rw [stringText, closedText, htext]
    rfl
  refine ⟨pieces, hproper, hquoted, ?_⟩
  rw [text?, hquoted, denoted?_quote]

theorem escape_plain {c : Char} (h : (Piece.plain c).Proper) : escape c = [c] := by
  obtain ⟨hquote, hslash, hlow⟩ := h
  have hne : ∀ d : Char, d.toNat < 0x20 → c ≠ d := fun d hd heq => hlow (heq ▸ hd)
  unfold escape
  rw [if_neg hquote, if_neg hslash, if_neg (hne _ (by decide)), if_neg (hne _ (by decide)),
    if_neg (hne _ (by decide)), if_neg (hne _ (by decide)), if_neg (hne _ (by decide)), if_neg hlow]

theorem flatMap_plain (cs : List Char) : (cs.map Piece.plain).flatMap Piece.text = cs := by
  rw [List.flatMap_map]
  exact List.flatMap_singleton' cs

theorem text?_plain {s : String} (h : ∀ p ∈ s.toList.map Piece.plain, p.Proper) :
    text? (s.toList.map .plain) = some s := by
  have hquoted : stringText (s.toList.map .plain) = quoteChars s.toList := by
    have hescape : s.toList.flatMap escape = s.toList.flatMap fun c => [c] :=
      List.flatMap_congr fun c hc => escape_plain (h _ (List.mem_map_of_mem hc))
    rw [stringText, closedText, flatMap_plain, quoteChars, hescape, List.flatMap_singleton']
    rfl
  rw [text?, hquoted, denoted?_quote]

/-- The layout of a number, with a sign in front of it. -/
def NumberText.ofLayout (negative : Bool) (l : Shortest.Layout) : NumberText where
  negative
  whole := l.whole
  fraction := l.fraction
  power := l.power.map fun (below, ds) => ('e', some (if below then '-' else '+'), ds)

namespace NumberText

variable {l : Shortest.Layout}

theorem text_ofLayout (negative : Bool) (l : Shortest.Layout) :
    (ofLayout negative l).text = (if negative then ['-'] else []) ++ l.text := by
  unfold text unsigned ofLayout Shortest.Layout.text
  dsimp only
  rw [List.append_assoc]
  cases l.power <;> rfl

theorem proper_ofLayout (negative : Bool) (h : l.Proper) : (ofLayout negative l).Proper where
  whole := h.whole
  wholeDigits := h.wholeDigits
  fractionDigits := h.fractionDigits
  power mark sign ds hpower := by
    obtain ⟨⟨below, ds⟩, hlayout, heq⟩ := Option.map_eq_some_iff.mp hpower
    obtain ⟨rfl, rfl, rfl⟩ := heq
    obtain ⟨hne, hdigits⟩ := h.powerDigits below ds hlayout
    refine ⟨.inl rfl, fun c hc => ?_, hne, hdigits⟩
    obtain rfl := Option.some.inj hc
    cases below
    · exact .inl rfl
    · exact .inr rfl

end NumberText

/-- A finite number is written as a number of the grammar, and denotes a finite number. -/
theorem float_text {x : Binary64} (hx : x.IsCanonical) : ∃ t : NumberText, t.Proper ∧
    t.text = (floatText x).toList ∧ ∃ y : Binary64, denoted? t.text = some (.float y) := by
  obtain ⟨y, -, hread⟩ := reads_finite hx
  have hparse := parse_render (hread maxDepth)
  rw [render, renderChars] at hparse
  obtain ⟨negative, m, e, rfl, -⟩ := hx
  refine ⟨.ofLayout negative (Shortest.layout (Shortest.digits .even m e)),
    NumberText.proper_ofLayout negative (Shortest.proper_layout _), ?_, y, ?_⟩
  · rw [NumberText.text_ofLayout, floatText_toList]
  · rw [NumberText.text_ofLayout, ← floatText_toList, denoted?, hparse]
    rfl

/-! ## Numbers alone -/

theorem skipSpace_solid {bs : List UInt8} (h : ∀ b ∈ bs, isSpace b = false) : skipSpace bs = bs := by
  cases bs with
  | nil => rfl
  | cons b bs =>
    exact List.dropWhile_cons_of_neg (by simp [h b List.mem_cons_self])

/-- A number that nothing but white space follows, and no white space does, is followed by nothing. -/
theorem number_alone {negative : Bool} {bs : List UInt8} (hsolid : ∀ b ∈ bs, isSpace b = false)
    (h : (match number negative bs with
      | .ok (_, rest) => (skipSpace rest).isEmpty
      | .error _ => false) = true) : ∃ v, number negative bs = .ok (v, []) := by
  cases hread : number negative bs with
  | error e =>
    rw [hread] at h
    cases h
  | ok found =>
    obtain ⟨v, rest⟩ := found
    obtain ⟨t, -, -, hbs⟩ := number_sound hread
    have hrest : ∀ b ∈ rest, isSpace b = false := fun b hb =>
      hsolid b (hbs ▸ List.mem_append_right _ hb)
    rw [hread] at h
    dsimp only at h
    rw [skipSpace_solid hrest] at h
    exact ⟨v, congrArg (fun rest => Except.ok (v, rest)) (List.isEmpty_iff.mp h)⟩

/-- What is accepted as a number, and has no white space around it, is a number of the grammar that
denotes one. -/
theorem isNumber_sound {bs : List UInt8} (hsolid : ∀ b ∈ bs, isSpace b = false)
    (h : isNumber bs = true) : ∃ t : NumberText, t.Proper ∧ bs = Utf8.encode t.text ∧
      ∃ v, v.IsNumber ∧ denoted? t.text = some v := by
  obtain ⟨negative, digits, v, hbs, hread⟩ : ∃ negative digits v,
      bs = (if negative then [ascii '-'] else []) ++ digits ∧
        number negative digits = .ok (v, []) := by
    unfold isNumber at h
    rw [skipSpace_solid hsolid] at h
    cases bs with
    | nil => cases h
    | cons b bs =>
      dsimp only at h
      by_cases hminus : b = ascii '-'
      · rw [if_pos hminus] at h
        obtain ⟨v, hread⟩ := number_alone (fun c hc => hsolid c (List.mem_cons_of_mem b hc)) h
        exact ⟨true, bs, v, congrArg (· :: bs) hminus, hread⟩
      · rw [if_neg hminus] at h
        obtain ⟨v, hread⟩ := number_alone hsolid h
        exact ⟨false, b :: bs, v, rfl, hread⟩
  -- the text is one of the grammar, and so it settles on the number that was read
  obtain ⟨t, hproper, rfl, hdigits⟩ := number_sound hread
  rw [List.append_nil] at hdigits
  rw [hdigits, ← encode_number hproper] at hbs
  obtain ⟨outcome, hnumber, hsettles⟩ := numberText_settles hproper
  have hvalue := hsettles maxDepth [] fun b hb => nomatch hb
  rw [value_numberText maxDepth hproper, List.append_nil, ← hdigits, hread] at hvalue
  obtain ⟨w, rfl, -⟩ := Option.map_eq_some_iff.mp hvalue.symm
  exact ⟨t, hproper, hbs, w, hnumber w rfl, denoted?_eq (hsettles maxDepth)⟩

end TableFeed.Json
