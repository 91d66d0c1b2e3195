import Mathlib.Data.Finset.Card
import Mathlib.Data.List.Forall2
import Mathlib.Data.List.Induction
import TableFeed.Proofs.Table.Row

/-!
# The order of insertion

The cells of a row are searched from the front; a name that is found keeps its place and any other is put
behind all. So of everything that was done with a row, what remains of each column is the place of the
first call for it and the cell of the last.

* **`Recorded`** — the invariant: the names stand in the order of their first calls, and under each is the
  cell of the last call for it.
* **`Recorded.call`** — the crux: each call keeps it, since a known column stays where it is and a new one
  is set behind all that were set before.
* **`cells_eq_map`** — a row with distinct names is told by its names and by what it holds under each.
* **`insertion_ordered`** — so a row is a map in the order of insertion, and two histories make equal rows
  just if they agree on the first calls and the last ones.
-/

namespace TableFeed.Row

/-! ## Histories -/

/-- What is done with a row: a column is set, to a cell that may be absent or to a value. -/
inductive Call where
  | insert (column : String) (cell : Option Cell)
  | withValue (column : String) (value : Cell)
  deriving DecidableEq, Repr

/-- The column that a call sets. -/
def Call.column : Call → String
  | .insert column _ | .withValue column _ => column

/-- The cell that a call sets its column to. -/
def Call.cell : Call → Option Cell
  | .insert _ cell => cell
  | .withValue _ value => some value

/-- The row after a call. -/
def call (r : Row) : Call → Row
  | .insert column cell => r.insert column cell
  | .withValue column value => r.withValue column value

/-- The row that some calls make of an empty one. -/
def ofCalls (calls : List Call) : Row :=
  calls.foldl call {}

/-- The columns that some calls set, with their repetitions. -/
def columns (calls : List Call) : List String :=
  calls.map (·.column)

/-- The cell of the last call for a column. -/
def lastCell (column : String) (calls : List Call) : Option (Option Cell) :=
  (calls.filter (·.column = column)).getLast?.map (·.cell)

section

variable (calls : List Call) (c : Call)

theorem call_eq_insert (r : Row) : r.call c = r.insert c.column c.cell := by
  cases c with
  | insert => rfl
  | withValue => rfl

theorem ofCalls_concat : ofCalls (calls ++ [c]) = (ofCalls calls).call c :=
  List.foldl_concat ..

theorem columns_concat : columns (calls ++ [c]) = columns calls ++ [c.column] :=
  List.map_append

theorem lastCell_concat (column : String) : lastCell column (calls ++ [c]) =
    if column = c.column then some c.cell else lastCell column calls := by
  unfold lastCell
  rw [List.filter_append]
  by_cases h : column = c.column
  · rw [if_pos h, List.filter_cons_of_pos (by simp [h]), List.filter_nil, List.getLast?_concat,
      Option.map_some]
  · rw [if_neg h, List.filter_cons_of_neg (by simp [Ne.symm h]), List.filter_nil, List.append_nil]

variable {calls c}

theorem eraseDups_concat_of_mem (h : c.column ∈ columns calls) :
    (columns (calls ++ [c])).eraseDups = (columns calls).eraseDups := by
  rw [columns_concat, List.eraseDups_append, List.cons_removeAll, if_neg (by simpa using h),
    List.nil_removeAll, List.eraseDups_nil, List.append_nil]

theorem eraseDups_concat_of_notMem (h : c.column ∉ columns calls) :
    (columns (calls ++ [c])).eraseDups = (columns calls).eraseDups ++ [c.column] := by
  rw [columns_concat, List.eraseDups_append, List.cons_removeAll, if_pos (by simpa using h),
    List.nil_removeAll]
  rfl

/-- More calls do not change where a column was first set. -/
theorem idxOf_concat {column : String} (h : column ∈ columns calls) :
    (columns (calls ++ [c])).idxOf column = (columns calls).idxOf column := by
  rw [columns_concat, List.idxOf_append_of_mem h]

/-- A new column is first set behind all others. -/
theorem idxOf_lt_concat {column : String} (h : column ∈ columns calls)
    (hnew : c.column ∉ columns calls) :
    (columns (calls ++ [c])).idxOf column < (columns (calls ++ [c])).idxOf c.column := by
  rw [idxOf_concat h, columns_concat, List.idxOf_append_of_notMem hnew]
  exact (List.idxOf_lt_length_of_mem h).trans_le (Nat.le_add_right _ _)

end

/-! ## The invariant -/

/-- A row is what some calls have made of an empty one. -/
structure Recorded (calls : List Call) (r : Row) : Prop where
  names_eq : r.names = (columns calls).eraseDups
  /-- Each column stands where it was first set. -/
  ordered : r.names.Pairwise fun a b => (columns calls).idxOf a < (columns calls).idxOf b
  held : ∀ column, r.get? column = lastCell column calls

namespace Recorded

variable {calls : List Call} {r : Row}

theorem empty : Recorded [] {} where
  names_eq := rfl
  ordered := List.Pairwise.nil
  held _ := rfl

section

variable (h : Recorded calls r)
include h

theorem mem_names (column : String) : column ∈ r.names ↔ column ∈ columns calls := by
  rw [h.names_eq, List.mem_eraseDups]

theorem distinct : r.names.Nodup :=
  h.ordered.imp fun hlt heq => hlt.ne (congrArg (columns calls).idxOf heq)

theorem call (c : Call) : Recorded (calls ++ [c]) (r.call c) := by
  have hheld : ∀ column, (r.call c).get? column = lastCell column (calls ++ [c]) := by
    intro column
    rw [call_eq_insert, get?_insert, lastCell_concat, h.held]
  have hkept : r.names.Pairwise fun a b =>
      (columns (calls ++ [c])).idxOf a < (columns (calls ++ [c])).idxOf b := by
    refine h.ordered.imp_of_mem fun ha hb hlt => ?_
    rwa [idxOf_concat ((h.mem_names _).mp ha), idxOf_concat ((h.mem_names _).mp hb)]
  have hnames : (r.call c).names = if c.column ∈ r.names then r.names else r.names ++ [c.column] := by
    rw [call_eq_insert, names_insert]
  by_cases hknown : c.column ∈ r.names
  · -- a known column stays where it is
    rw [if_pos hknown] at hnames
    have hmem := (h.mem_names c.column).mp hknown
    exact ⟨by rw [hnames, h.names_eq, eraseDups_concat_of_mem hmem], hnames ▸ hkept, hheld⟩
  · -- a new one stands behind columns that were all set before it
    rw [if_neg hknown] at hnames
    have hnew : c.column ∉ columns calls := mt (h.mem_names c.column).mpr hknown
    refine ⟨by rw [hnames, h.names_eq, eraseDups_concat_of_notMem hnew], ?_, hheld⟩
    rw [hnames, List.pairwise_append]
    refine ⟨hkept, List.pairwise_singleton _ _, fun a ha b hb => ?_⟩
    rw [List.mem_singleton.mp hb]
    exact idxOf_lt_concat ((h.mem_names a).mp ha) hnew

theorem size_eq : r.size = (columns calls).toFinset.card := by
  have hset : (columns calls).toFinset = r.names.toFinset := by
    ext column
    rw [List.mem_toFinset, List.mem_toFinset, h.mem_names]
  have hlength : r.names.length = r.size := List.length_map _
  rw [hset, List.toFinset_card_of_nodup h.distinct, hlength]

end

theorem run (calls : List Call) : Recorded calls (ofCalls calls) := by
  induction calls using List.reverseRecOn with
  | nil => exact empty
  | append_singleton calls c ih =>
    rw [ofCalls_concat]
    exact ih.call c

end Recorded

/-! ## Rows by their names -/

section

variable {r s : Row}

/-- A row with distinct names is told by its names and by what it holds under each. -/
theorem cells_eq_map (h : r.names.Nodup) :
    r.cells = r.names.map fun column => (column, (r.get? column).join) := by
  obtain ⟨cells⟩ := r
  induction cells with
  | nil => rfl
  | cons p rest ih =>
    obtain ⟨name, cell⟩ := p
    obtain ⟨hnew, hrest⟩ : name ∉ (Row.mk rest).names ∧ (Row.mk rest).names.Nodup :=
      List.nodup_cons.mp h
    have hfirst : ((Row.mk ((name, cell) :: rest)).get? name).join = cell := by
      rw [get?_cons, if_pos rfl]
      rfl
    have hothers : (Row.mk rest).names.map
        (fun column => (column, ((Row.mk ((name, cell) :: rest)).get? column).join)) = rest := by
      refine Eq.trans (List.map_congr_left fun column hmem => ?_) (ih hrest).symm
      rw [get?_cons, if_neg (ne_of_mem_of_not_mem hmem hnew)]
    show (name, cell) :: rest = (name, _) :: (Row.mk rest).names.map _
    rw [hfirst, hothers]

theorem eq_iff_names_get? (hr : r.names.Nodup) :
    r = s ↔ r.names = s.names ∧ ∀ column, r.get? column = s.get? column := by
  constructor
  · rintro rfl
    exact ⟨rfl, fun _ => rfl⟩
  · rintro ⟨hnames, hget⟩
    have hcells : r.cells = s.cells := by
      rw [cells_eq_map hr, cells_eq_map (hnames ▸ hr), hnames]
      simp only [hget]
    exact congrArg Row.mk hcells

/-- Rows are equal by a comparison of values if they have the same columns in the same order and under
each both no value, or values that compare equal. -/
def EqualBy (same : Cell → Cell → Prop) (r s : Row) : Prop :=
  List.Forall₂ (fun p q => p.1 = q.1 ∧ Option.Rel same p.2 q.2) r.cells s.cells

variable {same : Cell → Cell → Prop}

theorem EqualBy.names_eq (h : r.EqualBy same s) : r.names = s.names := by
  unfold names
  rw [← List.forall₂_eq_eq_eq, List.forall₂_map_left_iff, List.forall₂_map_right_iff]
  exact h.imp fun _ _ h => h.1

theorem EqualBy.rel_get? (h : r.EqualBy same s) (column : String) :
    Option.Rel (Option.Rel same) (r.get? column) (s.get? column) := by
  obtain ⟨cells⟩ := r
  obtain ⟨others⟩ := s
  unfold EqualBy at h
  dsimp only at h
  induction h with
  | nil => exact .none
  | @cons p q _ _ hpq _ ih =>
    obtain ⟨name, cell⟩ := p
    obtain ⟨other, held⟩ := q
    obtain ⟨rfl, hsame⟩ : name = other ∧ Option.Rel same cell held := hpq
    rw [get?_cons, get?_cons]
    split
    · exact .some hsame
    · exact ih

theorem rel_join {a b : Option (Option Cell)} (h : Option.Rel (Option.Rel same) a b) :
    Option.Rel same a.join b.join := by
  cases h with
  | some h => exact h
  | none => exact .none

theorem equalBy_iff (hr : r.names.Nodup) : r.EqualBy same s ↔
    r.names = s.names ∧ ∀ column, Option.Rel (Option.Rel same) (r.get? column) (s.get? column) := by
  constructor
  · exact fun h => ⟨h.names_eq, h.rel_get?⟩
  · rintro ⟨hnames, hget⟩
    unfold EqualBy
    rw [cells_eq_map hr, cells_eq_map (hnames ▸ hr), ← hnames, List.forall₂_map_left_iff,
      List.forall₂_map_right_iff, List.forall₂_same]
    exact fun column _ => ⟨rfl, rel_join (hget column)⟩

end

/-- **A row is a map in the order of insertion.** Whatever calls have made a row, its columns are distinct
and stand in the order in which they were first set. It holds nothing under a column that was never set,
and otherwise the cell of the last call for the column; it has as many columns as different ones were set.
Two rows are the same just if their calls first set the same columns in the same order and last set each
to the same cell. The values may be compared in another way as well, for instance as numbers, where zeros
are equal whatever their signs and a NaN differs from itself. -/
theorem insertion_ordered (calls : List Call) :
    let r := ofCalls calls
    r.names.Nodup ∧
    r.names = (columns calls).eraseDups ∧
    r.names.Pairwise (fun a b => (columns calls).idxOf a < (columns calls).idxOf b) ∧
    (∀ column, r.get? column = none ↔ column ∉ columns calls) ∧
    (∀ column, r.get? column = lastCell column calls) ∧
    r.size = (columns calls).toFinset.card ∧
    ∀ others,
      (r = ofCalls others ↔ (columns calls).eraseDups = (columns others).eraseDups ∧
        ∀ column, lastCell column calls = lastCell column others) ∧
      ∀ same, r.EqualBy same (ofCalls others) ↔
        (columns calls).eraseDups = (columns others).eraseDups ∧
        ∀ column, Option.Rel (Option.Rel same) (lastCell column calls) (lastCell column others) := by
  intro r
  have h : Recorded calls r := Recorded.run calls
  refine ⟨h.distinct, h.names_eq, h.ordered, fun column => ?_, h.held, h.size_eq, fun others => ?_⟩
  · rw [get?_eq_none_iff, h.mem_names]
  · have hother := Recorded.run others
    refine ⟨?_, fun same => ?_⟩
    · rw [eq_iff_names_get? h.distinct, h.names_eq, hother.names_eq]
      simp only [h.held, hother.held]
    · rw [equalBy_iff h.distinct, h.names_eq, hother.names_eq]
      simp only [h.held, hother.held]

/-- A column that is set again stays in front. -/
example : ofCalls [.insert "b" (some (.int 1)), .insert "a" none, .withValue "b" (.int 2)] =
    ⟨[("b", some (.int 2)), ("a", none)]⟩ := by
  decide

end TableFeed.Row
