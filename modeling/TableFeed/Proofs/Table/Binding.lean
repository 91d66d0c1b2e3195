import Mathlib.Data.List.Basic
import TableFeed.Proofs.Table.Row
import TableFeed.Table.Binding

/-!
# Bindings that are filled again

A binding is filled anew for every record, slot by slot, and a column that fails leaves its slot and
those behind it as they were. So what stood in the slots can show only after a failure: one that fills
all of them leaves nothing of it.

* **`fill_refilled`** — the crux: whether a filling fails does not depend on what stood in the slots, and
  neither do the slots after one that does not fail.
* **`fill_values`**, **`fill_failed`** — the slots hold the values of the columns, or the first column
  that fails ends the filling.
* **`get?_last`** — a name stands for its last column.
* **`names_row`**, **`get?_row`** — the row of a binding has each name once, where it stands first.
-/

namespace TableFeed.Binding

variable {ε : Type} {column : Nat → Except ε (Option Cell)}

/-! ## Filling -/

theorem length_fill (column : Nat → Except ε (Option Cell)) (index : Nat)
    (slots : List (Option Cell)) : (fill column index slots).1.length = slots.length := by
  induction slots generalizing index with
  | nil => rfl
  | cons slot slots ih =>
    rw [fill]
    cases column index with
    | error e => rfl
    | ok value => exact congrArg (· + 1) (ih (index + 1))

/-- What stood in the slots does not matter, unless a column fails. -/
theorem fill_refilled (column : Nat → Except ε (Option Cell)) (index : Nat)
    {slots others : List (Option Cell)} (h : slots.length = others.length) :
    (fill column index slots).2 = (fill column index others).2 ∧
      ((fill column index slots).2 = none →
        (fill column index slots).1 = (fill column index others).1) := by
  induction slots generalizing index others with
  | nil =>
    cases others with
    | nil => exact ⟨rfl, fun _ => rfl⟩
    | cons => cases h
  | cons slot slots ih =>
    cases others with
    | nil => cases h
    | cons other others =>
      rw [fill, fill]
      cases column index with
      | error e => exact ⟨rfl, fun hnone => nomatch hnone⟩
      | ok value =>
        obtain ⟨hfailure, hslots⟩ := ih (index + 1) (Nat.succ.inj h)
        exact ⟨hfailure, fun hnone => congrArg (value :: ·) (hslots hnone)⟩

/-- A filling fails if a column does. -/
theorem fill_eq_none (index : Nat) (slots : List (Option Cell)) :
    (fill column index slots).2 = none ↔
      ∀ i < slots.length, ∃ value, column (index + i) = .ok value := by
  induction slots generalizing index with
  | nil => simp [fill]
  | cons slot slots ih =>
    have hfirst : (∀ i < (slot :: slots).length, ∃ value, column (index + i) = .ok value) ↔
        (∃ value, column index = .ok value) ∧
          ∀ i < slots.length, ∃ value, column (index + 1 + i) = .ok value := by
      simp only [List.length_cons, Nat.forall_lt_succ_left, Nat.add_zero, Nat.add_assoc,
        Nat.add_comm 1]
    rw [hfirst, ← ih, fill]
    cases column index with
    | error e => simp
    | ok value => simp

/-- Each slot holds the value of its column. -/
theorem fill_values {index : Nat} {slots : List (Option Cell)}
    (h : (fill column index slots).2 = none) {i : Nat} {value : Option Cell}
    (hi : (fill column index slots).1[i]? = some value) : column (index + i) = .ok value := by
  induction slots generalizing index i with
  | nil => simp [fill] at hi
  | cons slot slots ih =>
    rw [fill] at h hi
    cases hcolumn : column index with
    | error e =>
      rw [hcolumn] at h
      cases h
    | ok first =>
      rw [hcolumn] at h hi
      cases i with
      | zero =>
        obtain rfl := Option.some.inj hi
        exact hcolumn
      | succ i =>
        rw [Nat.add_comm i, ← Nat.add_assoc]
        exact ih h hi

/-- The first column that fails ends the filling. -/
theorem fill_failed {index j : Nat} {slots : List (Option Cell)} {e : ε} (hj : j < slots.length)
    (hbefore : ∀ i < j, ∃ value, column (index + i) = .ok value)
    (hfails : column (index + j) = .error e) : (fill column index slots).2 = some e := by
  induction slots generalizing index j with
  | nil => cases hj
  | cons slot slots ih =>
    rw [fill]
    cases j with
    | zero =>
      have hfirst : column index = .error e := hfails
      rw [hfirst]
    | succ j =>
      obtain ⟨value, hfirst⟩ : ∃ value, column index = .ok value := hbefore 0 (Nat.succ_pos j)
      rw [hfirst]
      refine ih (Nat.lt_of_succ_lt_succ hj) (fun i hi => ?_) ?_
      · have hnext := hbefore (i + 1) (Nat.succ_lt_succ hi)
        rwa [Nat.add_comm i, ← Nat.add_assoc] at hnext
      · rwa [Nat.add_comm j, ← Nat.add_assoc] at hfails

/-! ## The row of a binding -/

variable {b : Binding}

/-- A name that repeats stands for its last column. -/
theorem get?_last {i : Nat} {field : String} {value : Option Cell} (hfield : b.fields[i]? = some field)
    (hvalue : b.slots[i]? = some value) (hlast : ∀ j, i < j → b.fields[j]? ≠ some field) :
    b.get? field = value := by
  have hslot := (Row.mk (b.fields.zip b.slots).reverse).get?_eq_lookup field
  have hfound : (b.fields.zip b.slots).reverse.lookup field = some value := by
    refine lookup_reverse_getElem (List.getElem?_zip_eq_some.mpr ⟨hfield, hvalue⟩) ?_
    rintro j p hj hp rfl
    exact hlast j hj (List.getElem?_zip_eq_some.mp hp).1
  unfold get?
  unfold Row.get? at hslot
  rw [hslot, hfound]
  rfl

theorem row_eq_withCells (b : Binding) :
    b.row = Row.withCells {} (b.fields.map fun field => (field, b.get? field)) := by
  unfold row Row.withCells
  rw [List.foldl_map]

theorem names_row (b : Binding) : b.row.names = b.fields.eraseDups := by
  have hstart : (({} : Row)).names = [] := rfl
  rw [row_eq_withCells, Row.names_withCells, hstart, List.map_map, List.nil_append]
  have hnames : b.fields.map (Prod.fst ∘ fun field => (field, b.get? field)) = b.fields :=
    List.map_id _
  rw [hnames]
  simp [List.removeAll]

theorem get?_row {field : String} (h : field ∈ b.fields) : b.row.get? field = some (b.get? field) := by
  rw [row_eq_withCells, Row.get?_withCells, ← List.map_reverse,
    List.lookup_graph _ (List.mem_reverse.mpr h)]
  rfl

end TableFeed.Binding
