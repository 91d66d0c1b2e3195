import TableFeed.Proofs.Json.Reprinted
import TableFeed.Proofs.Text.Cutting

/-!
# White space around a value

A text may be trimmed before it is read. What is trimmed is the white space that would be passed over,
and nothing else.

* **`written_ends`** — a value of the grammar neither begins nor ends with white space.
* **`written_null`** — one that denotes null is the word for it.
-/

namespace TableFeed.Json

open Read (maxDepth)

theorem isBlank_spacing {space : List Char} (h : IsSpacing space) :
    ∀ c ∈ space, Blank.isBlank c = true := by
  have hall : [' ', '\t', '\n', '\r'].all Blank.isBlank = true := by decide
  exact fun c hc => List.all_eq_true.mp hall c (h c hc)

theorem isBlank_mark {c : Char} (h : Numeral.IsMark c) : Blank.isBlank c = false := by
  have hall : (['-', '+', '.', 'e', 'E'].all fun c => decide (Blank.isBlank c = false)) = true := by
    decide
  rcases h with hdigit | hmark
  · have hrange := Read.toNat_digit hdigit
    unfold Blank.isBlank
    simp only [Bool.or_eq_false_iff, Bool.and_eq_false_iff, decide_eq_false_iff_not, beq_eq_false_iff_ne]
    omega
  · exact of_decide_eq_true (List.all_eq_true.mp hall c hmark)

theorem itemsText_last (first : Bool) (its : List Item) :
    (itemsText first its).getLast? = some ']' := by
  induction its generalizing first with
  | nil => rfl
  | cons i its ih =>
    simp only [itemsText, Item.textWith, List.getLast?_append, ih]
    rfl

theorem membersText_last (first : Bool) (ms : List Member) :
    (membersText first ms).getLast? = some '\x7d' := by
  induction ms generalizing first with
  | nil => rfl
  | cons m ms ih =>
    simp only [membersText, Member.openTextWith, Item.textWith, List.getLast?_append,
      List.getLast?_cons, ih]
    rfl

/-- A text of the grammar neither begins nor ends with white space. -/
theorem written_ends {d : Nat} {cs : List Char} (h : Written d cs) :
    (∀ c ∈ cs.head?, Blank.isBlank c = false) ∧ ∀ c ∈ cs.getLast?, Blank.isBlank c = false := by
  have hends : ∀ {c e : Char} {cs : List Char}, cs.getLast? = some e →
      Blank.isBlank c = false → Blank.isBlank e = false →
      (∀ x ∈ (c :: cs).head?, Blank.isBlank x = false) ∧
        ∀ x ∈ (c :: cs).getLast?, Blank.isBlank x = false := by
    intro c e cs hlast hc he
    refine ⟨fun x hx => Option.some.inj hx ▸ hc, fun x hx => ?_⟩
    rw [List.getLast?_cons, hlast] at hx
    exact Option.some.inj hx ▸ he
  cases h with
  | null => exact hends (e := 'l') rfl (by decide) (by decide)
  | true => exact hends (e := 'e') rfl (by decide) (by decide)
  | false => exact hends (e := 'e') rfl (by decide) (by decide)
  | number h =>
    have hmarks := Read.text_marks h
    exact ⟨fun c hc => isBlank_mark (hmarks c (List.mem_of_mem_head? hc)),
      fun c hc => isBlank_mark (hmarks c (List.mem_of_mem_getLast? hc))⟩
  | string h =>
    refine hends (e := '"') ?_ (by decide) (by decide)
    rw [closedText, List.getLast?_append]
    rfl
  | array hspace hitems h =>
    refine hends (e := ']') ?_ (by decide) (by decide)
    rw [List.getLast?_append, itemsText_last]
    rfl
  | object hspace hmembers h =>
    refine hends (e := '\x7d') ?_ (by decide) (by decide)
    rw [List.getLast?_append, membersText_last]
    rfl

/-- Of the texts of the grammar, the word alone denotes null. -/
theorem written_null {d : Nat} {cs : List Char} {v : Json} (h : Prints d cs v) (hd : d ≤ maxDepth) :
    cs = "null".toList ↔ v = .null := by
  obtain ⟨hwritten, hv⟩ := h
  constructor
  · rintro rfl
    rw [denoted?_eq (Read.null_settles maxDepth)] at hv
    exact (Option.some.inj hv).symm
  · rintro rfl
    cases hwritten with
    | null => rfl
    | true =>
      rw [denoted?_eq (Read.true_settles maxDepth)] at hv
      cases hv
    | false =>
      rw [denoted?_eq (Read.false_settles maxDepth)] at hv
      cases hv
    | number h =>
      obtain ⟨outcome, hnumber, hsettles⟩ := Read.numberText_settles h
      rw [denoted?_eq (hsettles maxDepth)] at hv
      cases hnumber _ hv
    | string h =>
      rw [(settles_text h).2] at hv
      obtain ⟨s, -, hs⟩ := Option.map_eq_some_iff.mp hv
      cases hs
    | array hspace hitems h =>
      rw [denoted?_items hspace (fun i hi => ⟨hitems i hi, h i hi⟩) (by omega)] at hv
      obtain ⟨vs, -, hvs⟩ := Option.map_eq_some_iff.mp hv
      cases hvs
    | object hspace hmembers h =>
      rw [denoted?_members hspace (fun m hm => ⟨hmembers m hm, h m hm⟩) (by omega)] at hv
      obtain ⟨es, -, hes⟩ := Option.map_eq_some_iff.mp hv
      cases hes

end TableFeed.Json
