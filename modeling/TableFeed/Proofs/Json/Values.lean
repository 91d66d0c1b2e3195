import TableFeed.Json.Schema
import TableFeed.Proofs.Json.Float
import TableFeed.Proofs.Json.Strings

/-!
# Values are read as they were written

A value stands inside a longer text. What is read of it depends on its own text alone, as long as
nothing follows that could be part of it (`ReadAs`).

* **`reads_int`**, **`reads_string`** — whole numbers of 64 bits and texts are read as themselves.
* **`reads_finite`**, **`reads_exact`** — a finite number is read as a finite number, and as itself if
  that is what its text alone is read as (`Exact`).
* **`reads_object`** — the crux: an object is read field by field, each as what its value is read as.
* **`parse_render`** — a value's whole text.
-/

namespace TableFeed.Json

/-- The text of a number alone is read as that number. -/
def Exact (x : Binary64) : Prop :=
  (parse (floatText x)).toOption.map asNumber = some x

instance (x : Binary64) : Decidable (Exact x) :=
  inferInstanceAs (Decidable (_ = _))

namespace Read

/-- The text of one value, below so many levels and in front of anything that cannot be part of it,
is read as another. -/
def ReadAs (depth : Nat) (v w : Json) : Prop :=
  ∀ rest, Ends rest → value depth (Utf8.encode (renderChars v) ++ rest) = .ok (w, rest)

theorem encode_mark {c : Char} (h : c.toNat < 128) (cs : List Char) :
    Utf8.encode (c :: cs) = ascii c :: Utf8.encode cs := by
  rw [Utf8.encode_cons, encodeChar_ascii h]
  rfl

/-! ## The first byte decides -/

theorem value_quote (depth : Nat) (bs : List UInt8) :
    value depth (ascii '"' :: bs) = (string bs).map fun (s, rest) => (Json.string s, rest) := by
  have hskip : skipSpace (ascii '"' :: bs) = ascii '"' :: bs := rfl
  rw [value.eq_def]
  dsimp only
  rw [hskip]
  dsimp only
  rw [if_neg (by decide), if_neg (by decide), if_neg (by decide), if_neg (by decide),
    if_neg (by decide), if_pos rfl]

theorem value_brace (depth : Nat) (bs : List UInt8) :
    value (depth + 1) (ascii '\x7b' :: bs) =
      (fields (value depth) (bs.length + 1) true [] bs).map fun (fs, rest) =>
        (Json.object fs, rest) := by
  have hskip : skipSpace (ascii '\x7b' :: bs) = ascii '\x7b' :: bs := rfl
  rw [value.eq_def]
  dsimp only
  rw [hskip]
  dsimp only
  rw [if_neg (by decide), if_neg (by decide), if_neg (by decide), if_neg (by decide),
    if_neg (by decide), if_neg (by decide), if_neg (by decide), if_pos rfl]

/-- A number is read behind its sign. -/
theorem value_number (depth : Nat) (negative : Bool) {d : Char} (hd : d.isDigit = true)
    (bs : List UInt8) :
    value depth ((if negative then [ascii '-'] else []) ++ ascii d :: bs) =
      number negative (ascii d :: bs) := by
  cases negative with
  | true =>
    have hskip : skipSpace (ascii '-' :: ascii d :: bs) = ascii '-' :: ascii d :: bs := rfl
    show value depth (ascii '-' :: ascii d :: bs) = _
    rw [value.eq_def]
    dsimp only
    rw [hskip]
    dsimp only
    rw [if_neg (by decide), if_neg (by decide), if_neg (by decide), if_pos rfl]
  | false =>
    have hrange := toNat_digit hd
    have hne : ∀ {c : Char}, c.toNat < 128 → c.isDigit = false → ¬ ascii d = ascii c := by
      intro c hc hno heq
      rw [(ascii_inj (by omega) hc).mp heq, hno] at hd
      cases hd
    have hspace : isSpace (ascii d) = false := by
      have hbyte : (ascii d).toNat = d.toNat := toNat_ascii (by omega)
      unfold isSpace
      simp only [Utf8.beq_of_toNat, hbyte, Bool.or_eq_false_iff, decide_eq_false_iff_not]
      refine ⟨⟨⟨?_, ?_⟩, ?_⟩, ?_⟩
      · show ¬ d.toNat = 32
        omega
      · show ¬ d.toNat = 9
        omega
      · show ¬ d.toNat = 10
        omega
      · show ¬ d.toNat = 13
        omega
    have hskip : skipSpace (ascii d :: bs) = ascii d :: bs := by
      unfold skipSpace
      rw [List.dropWhile_cons_of_neg (by simp [hspace])]
    show value depth (ascii d :: bs) = _
    rw [value.eq_def]
    dsimp only
    rw [hskip]
    dsimp only
    rw [if_neg (hne (by decide) (by decide)), if_neg (hne (by decide) (by decide)),
      if_neg (hne (by decide) (by decide)), if_neg (hne (by decide) (by decide)),
      if_pos (isDigit_ascii hd)]

/-! ## Scalars -/

theorem reads_string (depth : Nat) (s : String) : ReadAs depth (.string s) (.string s) := by
  intro rest _
  have htext : Utf8.encode (renderChars (.string s)) ++ rest =
      ascii '"' :: (Utf8.encode (s.toList.flatMap escape) ++ ascii '"' :: rest) := by
    rw [renderChars, quoteChars, List.cons_append, encode_mark (by decide), Utf8.encode_append,
      List.cons_append, List.append_assoc]
    rfl
  rw [htext, value_quote, string_quoted]
  rfl

theorem numeric_ascii {cs : List Char} (h : ∀ c ∈ cs, Shortest.isNumeric c = true) :
    ∀ c ∈ cs, c.toNat < 128 := by
  intro c hc
  have hnumeric := h c hc
  simp only [Shortest.isNumeric, Bool.or_eq_true, decide_eq_true_eq] at hnumeric
  rcases hnumeric with (((hdigit | rfl) | rfl) | rfl) | rfl
  · have := toNat_digit hdigit
    omega
  all_goals decide

/-- A sign and a text of a number behind it, as bytes. -/
theorem encode_signed (negative : Bool) {cs : List Char}
    (h : ∀ c ∈ cs, Shortest.isNumeric c = true) :
    Utf8.encode ((if negative then ['-'] else []) ++ cs) =
      (if negative then [ascii '-'] else []) ++ cs.map ascii := by
  rw [Utf8.encode_append, encode_ascii (numeric_ascii h)]
  cases negative <;> rfl

/-- A whole number of 64 bits is read as itself. -/
theorem reads_int (depth : Nat) {i : Int} (hlow : -(2 ^ 63 : Int) ≤ i) (hhigh : i < 2 ^ 64) :
    ReadAs depth (.int i) (.int i) := by
  intro rest hrest
  obtain ⟨d, ds, hdigits, -⟩ := Shortest.toDigits_lead i.natAbs
  have hnumeric : ∀ c ∈ Nat.toDigits 10 i.natAbs, Shortest.isNumeric c = true := by
    intro c hc
    simp [Shortest.isNumeric, Shortest.isDigit_toDigits c hc]
  have hd : d.isDigit = true :=
    Shortest.isDigit_toDigits d (hdigits ▸ List.mem_cons_self)
  have hmax : i.natAbs ≤ maxSignificand := by
    show i.natAbs ≤ 18446744073709551615
    omega
  have htext : Utf8.encode (renderChars (.int i)) ++ rest =
      (if decide (i < 0) then [ascii '-'] else []) ++
        ((Nat.toDigits 10 i.natAbs).map ascii ++ rest) := by
    have hsign : (if i < 0 then ['-'] else []) = if decide (i < 0) then ['-'] else [] := by
      simp only [decide_eq_true_eq]
    rw [renderChars, int_toList, hsign, encode_signed _ hnumeric, List.append_assoc]
  have hvalue := value_number depth (decide (i < 0)) hd (ds.map ascii ++ rest)
  have hnumber : number (decide (i < 0)) ((Nat.toDigits 10 i.natAbs).map ascii ++ rest) =
      .ok (wholeNumber (decide (i < 0)) i.natAbs, rest) := number_digits hrest hmax
  rw [hdigits, List.map_cons, List.cons_append] at htext hnumber
  rw [htext, hvalue, hnumber]
  congr 2
  unfold wholeNumber
  simp only [Nat.pow_eq]
  by_cases hneg : i < 0
  · rw [if_neg (by simp [hneg]), if_neg (by omega)]
    congr 1
    omega
  · rw [if_pos (by simp [hneg])]
    congr 1
    omega

/-- A finite number is read as some finite number. -/
theorem reads_finite {x : Binary64} (hx : x.IsCanonical) :
    ∃ y, y.IsCanonical ∧ ∀ depth, ReadAs depth (.float x) (.float y) := by
  obtain ⟨negative, m, e, rfl, hc⟩ := hx
  obtain ⟨y, hy, hscaled⟩ := scaled_shortest negative hc
  refine ⟨y, hy, fun depth rest hrest => ?_⟩
  obtain ⟨hdigits, hleast, hgreatest, -⟩ := Shortest.digits_spec .even hc
  have hproper := Shortest.proper_layout (Shortest.digits .even m e)
  have hmax : (Shortest.layout (Shortest.digits .even m e)).significand ≤ maxSignificand := by
    obtain ⟨k, hsignificand, -, hroom⟩ := Shortest.significand_layout (Shortest.digits .even m e)
    have hlimit : maxSignificand = 18446744073709551615 := rfl
    rw [hsignificand]
    rcases hroom with rfl | hlt
    · omega
    · omega
  have hsmall : (Shortest.layout (Shortest.digits .even m e)).fraction.length +
      (Shortest.Layout.written (Shortest.layout (Shortest.digits .even m e)).power).natAbs <
        Nat.pow 2 31 := by
    have hshort := Shortest.layout_short (Shortest.digits .even m e)
    have hlength : (Nat.toDigits 10 (Shortest.digits .even m e).digits).length ≤ 18 :=
      (Nat.length_toDigits_le_iff (by decide) (by decide)).mpr (by omega)
    simp only [Nat.pow_eq]
    omega
  have hnumber : number negative ((Shortest.layout (Shortest.digits .even m e)).text.map ascii ++
      rest) = .ok (.float y, rest) := by
    rw [number_layout hproper hrest hmax hsmall, hscaled]
  obtain ⟨d, ds, hwhole, -⟩ := hproper.whole
  have hd : d.isDigit = true := hproper.wholeDigits d (hwhole ▸ List.mem_cons_self)
  obtain ⟨ds', htext⟩ : ∃ ds', (Shortest.layout (Shortest.digits .even m e)).text = d :: ds' := by
    unfold Shortest.Layout.text
    rw [hwhole]
    exact ⟨_, rfl⟩
  rw [renderChars, floatText_toList, encode_signed negative hproper.numeric, List.append_assoc]
  rw [htext, List.map_cons, List.cons_append] at hnumber ⊢
  rw [value_number depth negative hd, hnumber]

/-! ## Objects -/

/-- The text of the fields that are left, up to the closing brace; `first` says that none has been
written. -/
def leftChars : Bool → List (String × Json) → List Char
  | _, [] => ['\x7d']
  | first, (name, v) :: rest =>
    (if first then [] else [',']) ++
      (quoteChars name.toList ++ ':' :: (renderChars v ++ leftChars false rest))

theorem renderFields_eq (fields : List (String × Json)) :
    renderFields fields = leftChars true fields := by
  induction fields with
  | nil => rfl
  | cons f rest ih =>
    obtain ⟨name, v⟩ := f
    cases rest with
    | nil =>
      rw [renderFields, leftChars, leftChars, List.append_assoc]
      rfl
    | cons g rest =>
      have hnext : leftChars false (g :: rest) = ',' :: leftChars true (g :: rest) := rfl
      show quoteChars name.toList ++ ':' :: renderChars v ++ ',' :: renderFields (g :: rest) =
        quoteChars name.toList ++ ':' :: (renderChars v ++ leftChars false (g :: rest))
      rw [ih, hnext, List.append_assoc]
      rfl

variable (first : Bool) (more : List UInt8)

/-- A value among the fields is followed by a comma or by the closing brace. -/
theorem ends_left (fields : List (String × Json)) :
    Ends (Utf8.encode (leftChars false fields) ++ more) := by
  intro b hb
  cases fields with
  | nil =>
    obtain rfl : ascii '\x7d' = b := Option.some.inj hb
    decide
  | cons f rest =>
    obtain rfl : ascii ',' = b := Option.some.inj hb
    decide

/-- The fields that are left are fewer than the bytes of their text. -/
theorem length_left (fields : List (String × Json)) :
    fields.length < (Utf8.encode (leftChars first fields)).length := by
  induction fields generalizing first with
  | nil => exact Nat.one_pos
  | cons f rest ih =>
    obtain ⟨name, v⟩ := f
    have hrest := ih false
    rw [leftChars, Utf8.encode_append, Utf8.encode_append, encode_mark (by decide),
      Utf8.encode_append, List.length_append, List.length_append, List.length_cons,
      List.length_cons, List.length_append]
    omega

theorem nextName_nil :
    nextName first (Utf8.encode (leftChars first []) ++ more) = .ok none := by
  have hbytes : Utf8.encode (leftChars first []) ++ more = ascii '\x7d' :: more := rfl
  have hskip : skipSpace (ascii '\x7d' :: more) = ascii '\x7d' :: more := rfl
  rw [hbytes, nextName, hskip]
  dsimp only
  rw [if_pos rfl]

/-- The name of the next field is found behind its opening quote. -/
theorem nextName_cons (name : String) (v : Json) (fields : List (String × Json)) :
    nextName first (Utf8.encode (leftChars first ((name, v) :: fields)) ++ more) =
      .ok (some (Utf8.encode (name.toList.flatMap escape) ++ ascii '"' :: ascii ':' ::
        (Utf8.encode (renderChars v) ++ (Utf8.encode (leftChars false fields) ++ more)))) := by
  generalize hname : Utf8.encode (name.toList.flatMap escape) ++ ascii '"' :: ascii ':' ::
    (Utf8.encode (renderChars v) ++ (Utf8.encode (leftChars false fields) ++ more)) = behind
  have hbytes : Utf8.encode (leftChars first ((name, v) :: fields)) ++ more =
      (if first then [] else [ascii ',']) ++ ascii '"' :: behind := by
    rw [← hname, leftChars, Utf8.encode_append, quoteChars, List.cons_append, List.cons_append,
      encode_mark (by decide), Utf8.encode_append, Utf8.encode_append,
      encode_mark (by decide : (':' : Char).toNat < 128), Utf8.encode_append]
    cases first <;> simp [Utf8.encode, encodeChar_ascii]
  have hquote : skipSpace (ascii '"' :: behind) = ascii '"' :: behind := rfl
  have hcomma : skipSpace (ascii ',' :: ascii '"' :: behind) = ascii ',' :: ascii '"' :: behind :=
    rfl
  rw [hbytes]
  cases first with
  | true =>
    show nextName true (ascii '"' :: behind) = _
    rw [nextName, hquote]
    dsimp only
    rw [if_neg (by decide), if_pos rfl, if_pos rfl]
  | false =>
    show nextName false (ascii ',' :: ascii '"' :: behind) = _
    rw [nextName, hcomma]
    dsimp only
    rw [if_neg (by decide), if_neg (by decide), if_pos rfl, hquote]
    dsimp only
    rw [if_pos rfl]

theorem colon_eq (bs : List UInt8) : colon (ascii ':' :: bs) = .ok bs := by
  have hskip : skipSpace (ascii ':' :: bs) = ascii ':' :: bs := rfl
  rw [colon, hskip]
  dsimp only
  rw [if_pos rfl]

/-- A field of a new name is put behind the others. -/
theorem put_new {name : String} {fields : List (String × Json)} (v : Json)
    (h : name ∉ fields.map (·.1)) : put name v fields = fields ++ [(name, v)] := by
  induction fields with
  | nil => rfl
  | cons f rest ih =>
    obtain ⟨n, u⟩ := f
    rw [List.map_cons, List.mem_cons, not_or] at h
    rw [put, if_neg (Ne.symm h.1), ih h.2, List.cons_append]

/-- Fields with what the values of each are read as. -/
abbrev Rereading := List (String × Json × Json)

/-- The fields as they are written, -/
def Rereading.written (l : Rereading) : List (String × Json) :=
  l.map fun e => (e.1, e.2.1)

/-- and as they are read. -/
def Rereading.read (l : Rereading) : List (String × Json) :=
  l.map fun e => (e.1, e.2.2)

/-- The fields that are left are read behind those read so far. -/
theorem fields_left {depth : Nat} {l : Rereading} (hread : ∀ e ∈ l, ReadAs depth e.2.1 e.2.2)
    (before : List (String × Json)) (hnames : (before.map (·.1) ++ l.map (·.1)).Nodup)
    {rounds : Nat} (hrounds : l.length < rounds) :
    fields (value depth) rounds first before (Utf8.encode (leftChars first (Rereading.written l)) ++ more) =
      .ok (before ++ Rereading.read l, more) := by
  induction l generalizing first before rounds with
  | nil =>
    obtain ⟨rounds, rfl⟩ := Nat.exists_eq_add_of_lt hrounds
    have hskip : (skipSpace (Utf8.encode (leftChars first []) ++ more)).tail = more := rfl
    show fields (value depth) _ first before (Utf8.encode (leftChars first []) ++ more) = _
    rw [fields, nextName_nil]
    simp only [bind, Except.bind]
    rw [hskip]
    exact congrArg (fun l => Except.ok (l, more)) (List.append_nil before).symm
  | cons e l ih =>
    obtain ⟨name, v, w⟩ := e
    obtain ⟨rounds, rfl⟩ : ∃ n, rounds = n + 1 := ⟨rounds - 1, by omega⟩
    have hv := hread (name, v, w) List.mem_cons_self
    have hnew : name ∉ before.map (·.1) := by
      intro hmem
      exact (List.nodup_append.mp hnames).2.2 name hmem name List.mem_cons_self rfl
    have hwritten : Rereading.written ((name, v, w) :: l) = (name, v) :: Rereading.written l := rfl
    rw [hwritten, fields, nextName_cons]
    simp only [bind, Except.bind, string_quoted, colon_eq]
    rw [hv _ (ends_left more (Rereading.written l))]
    dsimp only
    rw [put_new w hnew, ih false (fun d hd => hread d (List.mem_cons_of_mem _ hd)) _ _ (by
      rw [List.length_cons] at hrounds
      omega), List.append_assoc]
    · rfl
    · rw [List.map_append, List.append_assoc]
      exact hnames

/-- An object is read field by field. -/
theorem reads_object {depth : Nat} {l : Rereading} (hread : ∀ e ∈ l, ReadAs depth e.2.1 e.2.2)
    (hnames : (l.map (·.1)).Nodup) :
    ReadAs (depth + 1) (.object (Rereading.written l)) (.object (Rereading.read l)) := by
  intro rest _
  have hlength := length_left true (Rereading.written l)
  have hcount : (Rereading.written l).length = l.length := List.length_map _
  rw [renderChars, renderFields_eq, encode_mark (by decide), List.cons_append, value_brace,
    fields_left true rest hread [] hnames (by rw [List.length_append]; omega)]
  rfl

/-! ## Whole texts -/

/-- The text of a value is what it is read as. -/
theorem parse_render {v w : Json} (h : ReadAs maxDepth v w) : parse v.render = .ok w := by
  have hvalue := h [] (fun b hb => by cases hb)
  rw [List.append_nil] at hvalue
  unfold parse parseBytes render Utf8.bytes
  rw [String.toList_ofList, hvalue]
  rfl

/-- A number whose text alone is read as it is read so everywhere. -/
theorem reads_exact {x : Binary64} (hx : x.IsCanonical) (h : Exact x) (depth : Nat) :
    ReadAs depth (.float x) (.float x) := by
  obtain ⟨y, -, hy⟩ := reads_finite hx
  have htext : floatText x = render (.float x) := by
    unfold render
    rw [renderChars, String.ofList_toList]
  unfold Exact at h
  rw [htext, parse_render (hy maxDepth)] at h
  obtain rfl : y = x := Option.some.inj h
  exact hy depth

end Read

end TableFeed.Json
