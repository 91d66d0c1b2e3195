import TableFeed.Proofs.Json.Denoted
import TableFeed.Proofs.Json.Ranges

/-!
# A value that was read can be written and read again

White space, escapes, the spelling of numbers and repeated names are gone once a text is read. What is
left is a value, and the text that this is written as denotes it again: a value that was read nests no
deeper than is read, its whole numbers fit 64 bits and the names of its fields are different. Only of a
floating-point number this need not be so, and it is assumed of the ones in the value.

* **`Faithful`** — what a value has to be like.
* **`Faithful.printed`** — the text of such a value is of the grammar and denotes it.
* **`faithful_of_written`** — the crux: a value that a text denotes is like that, by induction on how
  the text is written.
* **`written_within`** — a text of the grammar that is read nests no deeper than is read.
-/

namespace TableFeed.Json

open Read

/-! ## Numbers in a value -/

mutual

/-- The floating-point numbers in a value. -/
def floats : Json → List Binary64
  | .float x => [x]
  | .array items => itemFloats items
  | .object fields => fieldFloats fields
  | _ => []

/-- Those in the items of an array. -/
def itemFloats : List Json → List Binary64
  | [] => []
  | v :: rest => floats v ++ itemFloats rest

/-- Those in the fields of an object. -/
def fieldFloats : List (String × Json) → List Binary64
  | [] => []
  | (_, v) :: rest => floats v ++ fieldFloats rest

end

theorem itemFloats_eq (items : List Json) : itemFloats items = items.flatMap floats := by
  induction items with
  | nil => rfl
  | cons v rest ih => rw [itemFloats, ih, List.flatMap_cons]

theorem fieldFloats_eq (fields : List (String × Json)) :
    fieldFloats fields = fields.flatMap fun e => floats e.2 := by
  induction fields with
  | nil => rfl
  | cons e rest ih => rw [fieldFloats, ih, List.flatMap_cons]

/-- A value that is read again as it is, if it nests within a bound: numbers are in range, those that are
floating-point are read as what they are written as, and no two fields have one name. -/
inductive Faithful : Nat → Json → Prop where
  | null {d : Nat} : Faithful d .null
  | bool {d : Nat} (b : Bool) : Faithful d (.bool b)
  | int {d : Nat} {i : Int} (h : -(2 ^ 63 : Int) ≤ i ∧ i < 2 ^ 64) : Faithful d (.int i)
  | float {d : Nat} {x : Binary64} (h : x.IsCanonical) (hexact : Exact x) : Faithful d (.float x)
  | string {d : Nat} (s : String) : Faithful d (.string s)
  | array {d : Nat} {items : List Json} (h : ∀ v ∈ items, Faithful d v) :
    Faithful (d + 1) (.array items)
  | object {d : Nat} {fields : List (String × Json)} (hnames : (fields.map (·.1)).Nodup)
    (h : ∀ e ∈ fields, Faithful d e.2) : Faithful (d + 1) (.object fields)

/-! ## What such a value is written as -/

variable {d : Nat}

/-- A text of the grammar that denotes a value. -/
def Prints (d : Nat) (cs : List Char) (v : Json) : Prop :=
  Written d cs ∧ denoted? cs = some v

theorem denoted?_render {v : Json} (h : ReadAs maxDepth v v) : denoted? (renderChars v) = some v := by
  have hparse := parse_render h
  rw [render] at hparse
  rw [denoted?, hparse]
  rfl

/-- A whole number is written as a number of the grammar. -/
theorem int_text (i : Int) : ∃ t : NumberText, t.Proper ∧ t.text = (toString i).toList := by
  refine ⟨⟨decide (i < 0), Nat.toDigits 10 i.natAbs, [], none⟩, ?_, ?_⟩
  · exact ⟨Shortest.toDigits_lead _, Shortest.isDigit_toDigits, List.forall_mem_nil _,
      NumberText.isPower_none⟩
  · rw [int_toList]
    simp [NumberText.text, NumberText.unsigned, NumberText.powerText,
      Shortest.Layout.fractionText]

/-- Items one after the other. -/
theorem renderItems_eq (vs : List Json) :
    renderItems vs = itemsText true (vs.map fun v => { value := renderChars v }) := by
  induction vs with
  | nil => rfl
  | cons v rest ih =>
    cases rest with
    | nil => rw [renderItems]; rfl
    | cons w rest =>
      rw [renderItems, ih]
      rfl

theorem prints_items {vs : List Json} (h : ∀ v ∈ vs, Prints d (renderChars v) v)
    (hd : d < maxDepth) : Prints (d + 1) (renderChars (.array vs)) (.array vs) := by
  have hnone : IsSpacing [] := List.forall_mem_nil _
  have hitems : ∀ i ∈ vs.map fun v => ({ value := renderChars v } : Item),
      i.Spaced ∧ Written d i.value := by
    intro i hi
    obtain ⟨v, hv, rfl⟩ := List.mem_map.mp hi
    exact ⟨⟨hnone, hnone⟩, (h v hv).1⟩
  have hvalues : (vs.map fun v => ({ value := renderChars v } : Item)).mapM
      (fun i => denoted? i.value) = some vs := by
    clear hitems
    induction vs with
    | nil => rfl
    | cons v rest ih =>
      rw [List.map_cons, List.mapM_cons, (h v List.mem_cons_self).2,
        ih fun w hw => h w (List.mem_cons_of_mem v hw)]
      rfl
  have hdenoted := denoted?_items hnone hitems hd
  rw [hvalues] at hdenoted
  rw [renderChars, renderItems_eq]
  exact ⟨.array hnone (fun i hi => (hitems i hi).1) fun i hi => (hitems i hi).2, hdenoted⟩

/-- Fields as members of the grammar, which denote them. -/
theorem exists_members {fields : List (String × Json)}
    (h : ∀ e ∈ fields, Prints d (renderChars e.2) e.2) (first : Bool) :
    ∃ ms : List Member, (∀ m ∈ ms, m.Proper ∧ Written d m.item.value) ∧
      membersText first ms = leftChars first fields ∧
      ms.mapM (memberOutcome Member.name? Member.value?) = some fields := by
  induction fields generalizing first with
  | nil => exact ⟨[], List.forall_mem_nil _, rfl, rfl⟩
  | cons e rest ih =>
    obtain ⟨name, v⟩ := e
    have hnone : IsSpacing [] := List.forall_mem_nil _
    obtain ⟨ms, hms, htext, houtcome⟩ := ih (fun e he => h e (List.mem_cons_of_mem _ he)) false
    obtain ⟨pieces, hpieces, hquoted, hname⟩ := quoted_text name
    obtain ⟨hwritten, hdenoted⟩ := h (name, v) List.mem_cons_self
    refine ⟨{ name := pieces, item := { value := renderChars v } } :: ms,
      List.forall_mem_cons.mpr ⟨⟨⟨hnone, hpieces, hnone, hnone, hnone⟩, hwritten⟩, hms⟩, ?_, ?_⟩
    · rw [membersText, leftChars, htext, ← hquoted]
      simp [Member.openTextWith, Item.textWith, stringText]
    · rw [List.mapM_cons, houtcome, memberOutcome, Member.name?, Member.value?, hname, hdenoted]
      rfl

/-- Fields that are put in one after the other stay as they are, if each of them is new. -/
theorem foldl_put {fields before : List (String × Json)}
    (h : (before.map (·.1) ++ fields.map (·.1)).Nodup) :
    fields.foldl (fun read e => put e.1 e.2 read) before = before ++ fields := by
  induction fields generalizing before with
  | nil => rw [List.foldl_nil, List.append_nil]
  | cons e rest ih =>
    have hnew : e.1 ∉ before.map (·.1) := fun hmem =>
      (List.nodup_append.mp h).2.2 e.1 hmem e.1 List.mem_cons_self rfl
    have hnext : ((before ++ [e]).map (·.1) ++ rest.map (·.1)).Nodup := by
      rw [List.map_append, List.append_assoc]
      exact h
    rw [List.foldl_cons, put_new e.2 hnew, ih hnext, List.append_assoc]
    rfl

theorem prints_fields {fields : List (String × Json)} (hnames : (fields.map (·.1)).Nodup)
    (h : ∀ e ∈ fields, Prints d (renderChars e.2) e.2) (hd : d < maxDepth) :
    Prints (d + 1) (renderChars (.object fields)) (.object fields) := by
  have hnone : IsSpacing [] := List.forall_mem_nil _
  obtain ⟨ms, hms, htext, houtcome⟩ := exists_members h true
  have hput : fields.foldl (fun read e => put e.1 e.2 read) [] = fields := foldl_put hnames
  have hdenoted := denoted?_members hnone hms hd
  rw [objectOutcome, houtcome, Option.map_some, hput] at hdenoted
  rw [renderChars, renderFields_eq, ← htext]
  exact ⟨.object hnone (fun m hm => (hms m hm).1) fun m hm => (hms m hm).2, hdenoted⟩

/-- The text of such a value is of the grammar and denotes the value. -/
theorem Faithful.printed {v : Json} (h : Faithful d v) (hd : d ≤ maxDepth) :
    Prints d (renderChars v) v := by
  induction h with
  | null => exact ⟨.null, denoted?_eq (null_settles maxDepth)⟩
  | bool b =>
    cases b with
    | true => exact ⟨.true, denoted?_eq (true_settles maxDepth)⟩
    | false => exact ⟨.false, denoted?_eq (false_settles maxDepth)⟩
  | @int _ i h =>
    obtain ⟨t, hproper, htext⟩ := int_text i
    refine ⟨?_, denoted?_render (reads_int maxDepth h.1 h.2)⟩
    rw [renderChars, ← htext]
    exact .number hproper
  | float h hexact =>
    obtain ⟨t, hproper, htext, -⟩ := float_text h
    refine ⟨?_, denoted?_render (reads_exact h hexact maxDepth)⟩
    rw [renderChars, ← htext]
    exact .number hproper
  | string s =>
    obtain ⟨pieces, hproper, hquoted, -⟩ := quoted_text s
    refine ⟨?_, denoted?_quote s⟩
    rw [renderChars, ← hquoted]
    exact .string hproper
  | array h ih => exact prints_items (fun v hv => ih v hv (by omega)) (by omega)
  | object hnames h ih => exact prints_fields hnames (fun e he => ih e he (by omega)) (by omega)

/-! ## Values that were read -/

theorem put_names (name : String) (v : Json) (fields : List (String × Json)) :
    (put name v fields).map (·.1) =
      if name ∈ fields.map (·.1) then fields.map (·.1) else fields.map (·.1) ++ [name] := by
  induction fields with
  | nil => rfl
  | cons f rest ih =>
    obtain ⟨n, u⟩ := f
    rw [put]
    by_cases hn : n = name
    · simp [hn]
    · rw [if_neg hn, List.map_cons, ih]
      have hne : ¬ name = n := fun h => hn h.symm
      simp only [List.map_cons, List.mem_cons, hne, false_or]
      split <;> rfl

/-- However often a name comes, one field is left of it. -/
theorem nodup_foldl_put {es before : List (String × Json)} (h : (before.map (·.1)).Nodup) :
    ((es.foldl (fun read e => put e.1 e.2 read) before).map (·.1)).Nodup := by
  induction es generalizing before with
  | nil => exact h
  | cons e rest ih =>
    refine ih ?_
    rw [put_names]
    split
    · exact h
    · rename_i hnew
      exact List.nodup_append.mpr ⟨h, List.nodup_singleton _, fun n hn m hm heq =>
        hnew (List.mem_singleton.mp hm ▸ heq ▸ hn)⟩

theorem mem_foldl_put {es before : List (String × Json)} {e : String × Json}
    (h : e ∈ es.foldl (fun read e => put e.1 e.2 read) before) :
    (∃ f ∈ es, e.2 = f.2) ∨ e ∈ before := by
  induction es generalizing before with
  | nil => exact .inr h
  | cons f rest ih =>
    rcases ih h with ⟨g, hg, heq⟩ | hmem
    · exact .inl ⟨g, List.mem_cons_of_mem f hg, heq⟩
    · exact (mem_put hmem).imp_left fun heq => ⟨f, List.mem_cons_self, heq⟩

/-- A value that a text of the grammar denotes is read again as it is, if its floating-point numbers
are. -/
theorem faithful_of_written {cs : List Char} (h : Written d cs) (hd : d ≤ maxDepth) {v : Json}
    (hv : denoted? cs = some v) (hexact : ∀ x ∈ v.floats, Exact x) : Faithful d v := by
  induction h generalizing v with
  | null =>
    rw [denoted?_eq (null_settles maxDepth)] at hv
    rw [← Option.some.inj hv]
    exact .null
  | true =>
    rw [denoted?_eq (true_settles maxDepth)] at hv
    rw [← Option.some.inj hv]
    exact .bool true
  | false =>
    rw [denoted?_eq (false_settles maxDepth)] at hv
    rw [← Option.some.inj hv]
    exact .bool false
  | @number _ t h =>
    obtain ⟨outcome, hnumber, hsettles⟩ := numberText_settles h
    have hnum : v.IsNumber := hnumber v (by rw [← denoted?_eq (hsettles maxDepth), hv]; rfl)
    have hrange : v.InRange := parse_inRange (toOption_eq_some.mp hv)
    cases hnum with
    | int i =>
      cases hrange with
      | int h => exact .int h
    | float x =>
      cases hrange with
      | float h => exact .float h (hexact x (by simp [floats]))
  | string h =>
    rw [(settles_text h).2] at hv
    obtain ⟨s, -, rfl⟩ := Option.map_eq_some_iff.mp hv
    exact .string s
  | @array _ space its hspace hitems h ih =>
    rw [denoted?_items hspace (fun i hi => ⟨hitems i hi, h i hi⟩) (by omega)] at hv
    obtain ⟨vs, hvs, rfl⟩ := Option.map_eq_some_iff.mp hv
    refine .array fun v hmem => ?_
    obtain ⟨i, hi, hvalue⟩ := mem_of_mapM hvs hmem
    refine ih i hi (by omega) hvalue fun x hx => hexact x ?_
    rw [floats, itemFloats_eq]
    exact List.mem_flatMap.mpr ⟨v, hmem, hx⟩
  | @object _ space ms hspace hmembers h ih =>
    rw [denoted?_members hspace (fun m hm => ⟨hmembers m hm, h m hm⟩) (by omega)] at hv
    obtain ⟨es, hes, rfl⟩ := Option.map_eq_some_iff.mp hv
    refine .object (nodup_foldl_put List.nodup_nil) fun e hmem => ?_
    -- the value of a field is that of some member, though perhaps not of the first of its name
    obtain ⟨f, hf, heq⟩ := (mem_foldl_put hmem).resolve_right List.not_mem_nil
    obtain ⟨m, hm, houtcome⟩ := mem_of_mapM hes hf
    obtain ⟨n, -, hvalue⟩ := Option.bind_eq_some_iff.mp houtcome
    obtain ⟨w, hw, rfl⟩ := Option.map_eq_some_iff.mp hvalue
    refine ih m hm (by omega) (by rw [heq]; exact hw) fun x hx => hexact x ?_
    rw [floats, fieldFloats_eq]
    exact List.mem_flatMap.mpr ⟨e, hmem, hx⟩

/-! ## How deep a text nests that is read -/

theorem value_too_deep {c : Char} (h : c = '[' ∨ c = '\x7b') (bs : List UInt8) :
    (value 0 (ascii c :: bs)).toOption = none := by
  rcases h with rfl | rfl
  · have hskip : skipSpace (ascii '[' :: bs) = ascii '[' :: bs := rfl
    rw [value.eq_def]
    dsimp only
    rw [hskip]
    rfl
  · have hskip : skipSpace (ascii '\x7b' :: bs) = ascii '\x7b' :: bs := rfl
    rw [value.eq_def]
    dsimp only
    rw [hskip]
    rfl

theorem settles_too_deep {c : Char} (h : c = '[' ∨ c = '\x7b') (cs : List Char) :
    Settles (value 0) (Utf8.encode (c :: cs)) none := by
  intro rest _
  have hsmall : c.toNat < 128 := by rcases h with rfl | rfl <;> decide
  rw [encode_mark hsmall, List.cons_append, value_too_deep h]
  rfl

theorem isSome_memberOutcome {name : Member → Option String} {outcome : Member → Option Json}
    {m : Member} : (memberOutcome name outcome m).isSome = true ↔
      (name m).isSome = true ∧ (outcome m).isSome = true := by
  unfold memberOutcome
  cases name m <;> simp

/-- At every depth a text of the grammar has an outcome, and if that is a value the text fits in. -/
theorem written_within {n : Nat} {cs : List Char} (h : Written n cs) (depth : Nat) :
    ∃ outcome, Settles (value depth) (Utf8.encode cs) outcome ∧
      (outcome.isSome = true → Written depth cs) := by
  induction h generalizing depth with
  | null => exact ⟨_, null_settles depth, fun _ => .null⟩
  | true => exact ⟨_, true_settles depth, fun _ => .true⟩
  | false => exact ⟨_, false_settles depth, fun _ => .false⟩
  | number h =>
    obtain ⟨outcome, -, hsettles⟩ := numberText_settles h
    exact ⟨outcome, hsettles depth, fun _ => .number h⟩
  | string h =>
    obtain ⟨text, -, hsettles⟩ := stringText_settles h
    exact ⟨text.map .string, hsettles depth, fun _ => .string h⟩
  | @array _ space its hspace hitems h ih =>
    cases depth with
    | zero => exact ⟨none, settles_too_deep (.inl rfl) _, fun h => nomatch h⟩
    | succ depth =>
      obtain ⟨outcome, houtcome⟩ := exists_outcomes fun i hi => ih i hi depth
      refine ⟨_, array_settles hspace fun i hi =>
        ⟨hitems i hi, written_leads (h i hi), (houtcome i hi).1⟩, fun hsome => ?_⟩
      rw [Option.isSome_map, isSome_mapM] at hsome
      exact .array hspace hitems fun i hi => (houtcome i hi).2 (hsome i hi)
  | @object _ space ms hspace hmembers h ih =>
    cases depth with
    | zero => exact ⟨none, settles_too_deep (.inr rfl) _, fun h => nomatch h⟩
    | succ depth =>
      obtain ⟨outcome, houtcome⟩ := exists_outcomes fun m hm => ih m hm depth
      refine ⟨_, object_settles hspace fun m hm =>
        ⟨hmembers m hm, (settles_text (hmembers m hm).name).1, (houtcome m hm).1⟩, fun hsome => ?_⟩
      rw [objectOutcome, Option.isSome_map, isSome_mapM] at hsome
      exact .object hspace hmembers fun m hm =>
        (houtcome m hm).2 (isSome_memberOutcome.mp (hsome m hm)).2

end TableFeed.Json
