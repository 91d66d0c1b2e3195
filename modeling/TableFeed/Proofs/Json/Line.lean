import TableFeed.Json.Printer
import TableFeed.Proofs.Number.Layout

/-!
# A value's text stays on its line

* **`printable_render`** — no control character stands in the text of a value: strings escape theirs
  and nothing else brings one in. So the text has no line end.
-/

namespace TableFeed.Json

/-- A character that is none of the first thirty-two. -/
def Printable (c : Char) : Prop :=
  0x20 ≤ c.toNat

instance (c : Char) : Decidable (Printable c) :=
  inferInstanceAs (Decidable (_ ≤ _))

/-- Characters that are looked through one by one. -/
theorem printable_of_all {cs : List Char} (h : (cs.all fun c => decide (Printable c)) = true) :
    ∀ c ∈ cs, Printable c :=
  fun c hc => of_decide_eq_true (List.all_eq_true.mp h c hc)

/-! ## Numbers -/

theorem printable_of_numeric {c : Char} (h : Shortest.isNumeric c = true) : Printable c := by
  simp only [Shortest.isNumeric, Bool.or_eq_true, decide_eq_true_eq] at h
  rcases h with (((h | rfl) | rfl) | rfl) | rfl
  · have hdigit : 48 ≤ c.toNat ∧ c.toNat ≤ 57 := Char.isDigit_iff_toNat.mp h
    show 32 ≤ c.toNat
    omega
  all_goals decide

/-- A whole number is its sign and its digits. -/
theorem int_toList (i : Int) : (toString i).toList =
    (if i < 0 then ['-'] else []) ++ Nat.toDigits 10 i.natAbs := by
  cases i with
  | ofNat n =>
    rw [if_neg (by simp)]
    exact Shortest.toString_toList n
  | negSucc n =>
    rw [if_pos (Int.negSucc_lt_zero n)]
    show ("-" ++ Nat.repr (n + 1)).toList = _
    rw [String.toList_append, Nat.toList_repr]
    rfl

theorem printable_int (i : Int) : ∀ c ∈ (toString i).toList, Printable c := by
  intro c hc
  rw [int_toList] at hc
  rcases List.mem_append.mp hc with hc | hc
  · split at hc
    · rw [List.mem_singleton.mp hc]
      decide
    · cases hc
  · exact printable_of_numeric (by simp [Shortest.isNumeric, Shortest.isDigit_toDigits c hc])

/-- A floating-point number is its sign and a layout. -/
theorem floatText_toList (negative : Bool) (m : Nat) (e : Int) :
    (floatText (.finite negative m e)).toList =
      (if negative then ['-'] else []) ++ (Shortest.layout (Shortest.digits .even m e)).text := by
  show (Shortest.json negative m e).toList = _
  rw [Shortest.json_toList]
  cases negative <;> rfl

theorem printable_float (x : Binary64) : ∀ c ∈ (floatText x).toList, Printable c := by
  cases x with
  | finite negative m e =>
    intro c hc
    rw [floatText_toList] at hc
    rcases List.mem_append.mp hc with hc | hc
    · split at hc
      · rw [List.mem_singleton.mp hc]
        decide
      · cases hc
    · exact printable_of_numeric ((Shortest.proper_layout _).numeric c hc)
  | nan => exact printable_of_all (by decide)
  | infinite negative =>
    show ∀ c ∈ "null".toList, Printable c
    exact printable_of_all (by decide)

/-! ## Strings -/

theorem printable_hexDigit : ∀ n, n < 16 → Printable (Digits.hexDigit n) := by
  decide

theorem printable_escape (c : Char) : ∀ d ∈ escape c, Printable d := by
  unfold escape
  iterate 7
    split
    · exact printable_of_all (by decide)
  split
  · rename_i hlow
    have hhigh := printable_hexDigit (c.toNat / 16) (by omega)
    have hlast := printable_hexDigit (c.toNat % 16) (by omega)
    intro d hd
    simp only [List.mem_cons, List.not_mem_nil, or_false] at hd
    rcases hd with rfl | rfl | rfl | rfl | rfl | rfl
    · decide
    · decide
    · decide
    · decide
    · exact hhigh
    · exact hlast
  · rename_i hlow
    intro d hd
    rw [List.mem_singleton.mp hd]
    exact Nat.not_lt.mp hlow

theorem printable_quote (cs : List Char) : ∀ c ∈ quoteChars cs, Printable c := by
  intro c hc
  unfold quoteChars at hc
  simp only [List.cons_append, List.mem_cons, List.mem_append, List.mem_flatMap,
    List.not_mem_nil, or_false] at hc
  rcases hc with rfl | ⟨d, -, hc⟩ | rfl
  · decide
  · exact printable_escape d c hc
  · decide

/-! ## Values -/

/-- Two printable parts around a printable character. -/
theorem printable_join {front behind : List Char} {mark : Char} (hfront : ∀ c ∈ front, Printable c)
    (hmark : Printable mark) (hbehind : ∀ c ∈ behind, Printable c) :
    ∀ c ∈ front ++ mark :: behind, Printable c := by
  intro c hc
  rcases List.mem_append.mp hc with hc | hc
  · exact hfront c hc
  · rcases List.mem_cons.mp hc with rfl | hc
    · exact hmark
    · exact hbehind c hc

/-- A name with its value. -/
theorem printable_field (name : List Char) {value : List Char} (h : ∀ c ∈ value, Printable c) :
    ∀ c ∈ quoteChars name ++ ':' :: value, Printable c :=
  printable_join (printable_quote name) (by decide) h

mutual

/-- The text of a value holds no control character. -/
theorem printable_render : ∀ (v : Json), ∀ c ∈ renderChars v, Printable c
  | .null => printable_of_all (by decide)
  | .bool true => printable_of_all (by decide)
  | .bool false => printable_of_all (by decide)
  | .int i => printable_int i
  | .float x => printable_float x
  | .string s => printable_quote s.toList
  | .array items => by
    rw [renderChars]
    exact printable_join (List.forall_mem_nil _) (by decide) (printable_renderItems items)
  | .object fields => by
    rw [renderChars]
    exact printable_join (List.forall_mem_nil _) (by decide) (printable_renderFields fields)

theorem printable_renderItems : ∀ (items : List Json), ∀ c ∈ renderItems items, Printable c
  | [] => printable_of_all rfl
  | [v] => by
    rw [renderItems]
    exact printable_join (printable_render v) (by decide) (by simp)
  | v :: w :: rest => by
    rw [renderItems]
    exact printable_join (printable_render v) (by decide) (printable_renderItems (w :: rest))

theorem printable_renderFields :
    ∀ (fields : List (String × Json)), ∀ c ∈ renderFields fields, Printable c
  | [] => printable_of_all rfl
  | [(n, v)] => by
    rw [renderFields]
    exact printable_join (printable_field n.toList (printable_render v)) (by decide) (by simp)
  | (n, v) :: f :: rest => by
    rw [renderFields]
    exact printable_join (printable_field n.toList (printable_render v)) (by decide)
      (printable_renderFields (f :: rest))

end

end TableFeed.Json
