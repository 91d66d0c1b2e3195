import TableFeed.Proofs.Json.Values

/-!
# Records are read from the objects that were written

* **`readFields_left`** — the crux: the known fields of an object are found in their order, each as
  what its value is read as by its kind.
* **`parse_object`** — the record that the text of an object is.
-/

namespace TableFeed.Json.Schema

open Read

/-! ## Values of a kind -/

/-- The text of one value, in front of anything that cannot be part of it, is read as another by a
kind. -/
def ReadsKind (kind : Kind) (v w : Json) : Prop :=
  ∀ rest, Ends rest → readKind kind (Utf8.encode (renderChars v) ++ rest) = .ok (w, rest)

theorem readsKind_any {v w : Json} (h : ReadAs (maxDepth - 1) v w) : ReadsKind .any v w := by
  intro rest hrest
  rw [readKind, if_pos rfl, h rest hrest]

theorem readsKind_text (s : String) : ReadsKind .text (.string s) (.string s) := by
  intro rest _
  have htext : Utf8.encode (renderChars (.string s)) ++ rest =
      ascii '"' :: (Utf8.encode (s.toList.flatMap escape) ++ ascii '"' :: rest) := by
    rw [renderChars, quoteChars, List.cons_append, encode_mark (by decide), Utf8.encode_append,
      List.cons_append, List.append_assoc]
    rfl
  have hskip : ∀ bs, skipSpace (ascii '"' :: bs) = ascii '"' :: bs := fun _ => rfl
  rw [htext, readKind, if_neg (by decide), hskip]
  dsimp only
  rw [if_pos rfl, if_pos rfl, string_quoted]
  rfl

/-! ## Fields -/

variable {s : Schema} {l : Rereading}

/-- Every field is known, and read by its kind. -/
def ReadsFields (s : Schema) (l : Rereading) : Prop :=
  ∀ e ∈ l, ∃ f, s.field? e.1 = some f ∧ ReadsKind f.kind e.2.1 e.2.2

theorem field?_new {name : String} {found : List (String × Json)} (h : name ∉ found.map (·.1)) :
    Json.field? name found = none := by
  refine List.findSome?_eq_none_iff.mpr ?_
  intro e he
  have hne : ¬ e.1 = name := fun heq => h (heq ▸ List.mem_map_of_mem he)
  exact if_neg hne

/-- The fields that are left are found behind those found so far. -/
theorem readFields_left (hread : s.ReadsFields l) (first : Bool) (more : List UInt8)
    (found : List (String × Json)) (hnames : (found.map (·.1) ++ l.map (·.1)).Nodup)
    {rounds : Nat} (hrounds : l.length < rounds) :
    s.readFields rounds first found
        (Utf8.encode (leftChars first (Rereading.written l)) ++ more) =
      .ok (found ++ Rereading.read l, ascii '\x7d' :: more) := by
  induction l generalizing first found rounds with
  | nil =>
    obtain ⟨rounds, rfl⟩ : ∃ n, rounds = n + 1 := ⟨rounds - 1, by omega⟩
    have hskip : skipSpace (Utf8.encode (leftChars first []) ++ more) = ascii '\x7d' :: more := rfl
    show s.readFields _ first found (Utf8.encode (leftChars first []) ++ more) = _
    rw [readFields, nextName_nil]
    simp only [bind, Except.bind]
    rw [hskip]
    exact congrArg (fun l => Except.ok (l, ascii '\x7d' :: more)) (List.append_nil found).symm
  | cons e l ih =>
    obtain ⟨name, v, w⟩ := e
    obtain ⟨rounds, rfl⟩ : ∃ n, rounds = n + 1 := ⟨rounds - 1, by omega⟩
    obtain ⟨f, hf, hv⟩ := hread (name, v, w) List.mem_cons_self
    have hnew : name ∉ found.map (·.1) := by
      intro hmem
      exact (List.nodup_append.mp hnames).2.2 name hmem name List.mem_cons_self rfl
    have hwritten : Rereading.written ((name, v, w) :: l) = (name, v) :: Rereading.written l := rfl
    rw [hwritten, readFields, nextName_cons]
    simp only [bind, Except.bind, string_quoted, colon_eq]
    rw [hf]
    dsimp only
    rw [field?_new hnew, if_neg (by simp), hv _ (ends_left more (Rereading.written l))]
    dsimp only
    rw [ih (fun d hd => hread d (List.mem_cons_of_mem _ hd)) false _ _ (by
      rw [List.length_cons] at hrounds
      omega), List.append_assoc]
    · rfl
    · rw [List.map_append, List.append_assoc]
      exact hnames

/-- The record that the text of an object is. -/
theorem parse_object (hread : s.ReadsFields l) (hnames : (l.map (·.1)).Nodup) {values : List Json}
    (hvalues : assemble (Rereading.read l) s.fields = .ok values) :
    s.parse (render (.object (Rereading.written l))) = .ok values := by
  have hlength := length_left true (Rereading.written l)
  have hcount : (Rereading.written l).length = l.length := List.length_map _
  have hfields : s.readFields ((Utf8.encode (leftChars true (Rereading.written l))).length + 1) true
      [] (Utf8.encode (leftChars true (Rereading.written l))) =
      .ok (Rereading.read l, [ascii '\x7d']) := by
    have h := readFields_left hread true [] [] hnames (Nat.lt_succ_of_lt (hcount ▸ hlength))
    rwa [List.append_nil] at h
  have hbytes : Utf8.bytes (render (.object (Rereading.written l))) =
      ascii '\x7b' :: Utf8.encode (leftChars true (Rereading.written l)) := by
    rw [Utf8.bytes, render, String.toList_ofList, renderChars, renderFields_eq,
      encode_mark (by decide)]
  have hskip : ∀ bs, skipSpace (ascii '\x7b' :: bs) = ascii '\x7b' :: bs := fun _ => rfl
  have hrecord : s.read (ascii '\x7b' :: Utf8.encode (leftChars true (Rereading.written l))) =
      .ok (values, []) := by
    rw [read, hskip]
    dsimp only
    rw [if_neg (by decide), if_pos rfl, hfields]
    simp only [bind, Except.bind, hvalues]
    rfl
  unfold parse
  rw [hbytes]
  dsimp only
  rw [hrecord]
  rfl

end TableFeed.Json.Schema
