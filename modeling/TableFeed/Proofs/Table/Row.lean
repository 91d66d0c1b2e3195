import TableFeed.Proofs.Lookup
import TableFeed.Table.Row

/-!
# The cells of a row

A row that columns are set in holds under each what was set last.

* **`get?_insert`** — setting a column changes what the row holds under that one.
* **`get?_withCells`** — so each column holds the last cell set for it, or what it held before.
* **`names_withCells`** — columns that are new stand behind the others, each where it was first set.
* **`get?_withValues`**, **`names_withValues`** — the same where no cell is absent.
-/

namespace TableFeed.Row

/-- The row with columns set to cells, one after the other. -/
def withCells (r : Row) (cells : List (String × Option Cell)) : Row :=
  cells.foldl (fun r (column, cell) => r.insert column cell) r

/-- The row with columns set to values, one after the other. -/
def withValues (r : Row) (values : List (String × Cell)) : Row :=
  values.foldl (fun r (column, value) => r.withValue column value) r

theorem get?_eq_lookup (r : Row) (column : String) : r.get? column = r.cells.lookup column := by
  obtain ⟨cells⟩ := r
  unfold get?
  induction cells with
  | nil => rfl
  | cons cell rest ih =>
    dsimp only at ih
    rw [List.findSome?_cons, lookup_cons, ih]
    by_cases h : column = cell.1
    · simp only [if_pos h, if_pos h.symm]
    · simp only [if_neg h, if_neg (Ne.symm h)]

theorem get?_cons (name : String) (cell : Option Cell) (rest : List (String × Option Cell))
    (column : String) : (Row.mk ((name, cell) :: rest)).get? column =
      if column = name then some cell else (Row.mk rest).get? column := by
  rw [get?_eq_lookup, lookup_cons, get?_eq_lookup]

theorem get?_insert (r : Row) (column other : String) (value : Option Cell) :
    (r.insert column value).get? other = if other = column then some value else r.get? other := by
  rw [get?_eq_lookup, get?_eq_lookup]
  show (insertCell column value r.cells).lookup other = _
  induction r.cells with
  | nil => rw [insertCell, lookup_cons]
  | cons cell rest ih =>
    obtain ⟨name, held⟩ := cell
    rw [insertCell]
    split
    · rename_i hname
      rw [lookup_cons, lookup_cons, hname]
      split <;> rfl
    · rename_i hname
      rw [lookup_cons, lookup_cons, ih]
      by_cases hother : other = name
      · rw [if_pos hother, if_pos hother, if_neg fun h => hname (hother.symm.trans h)]
      · rw [if_neg hother, if_neg hother]

theorem get?_withCells (r : Row) (cells : List (String × Option Cell)) (column : String) :
    (r.withCells cells).get? column = (cells.reverse.lookup column).or (r.get? column) := by
  induction cells generalizing r with
  | nil => rfl
  | cons first rest ih =>
    obtain ⟨name, cell⟩ := first
    have hstep : r.withCells ((name, cell) :: rest) = (r.insert name cell).withCells rest := rfl
    have hfirst : (r.insert name cell).get? column =
        ([(name, cell)].lookup column).or (r.get? column) := by
      rw [get?_insert, lookup_cons]
      split <;> rfl
    rw [hstep, ih, hfirst, List.reverse_cons, List.lookup_append, Option.or_assoc]

/-- The names of the columns, in their order. -/
def names (r : Row) : List String :=
  r.cells.map (·.1)

/-- A row holds nothing under just the names that it does not have. -/
theorem get?_eq_none_iff (r : Row) (column : String) : r.get? column = none ↔ column ∉ r.names := by
  rw [get?_eq_lookup, List.lookup_eq_none_iff]
  unfold names
  rw [List.mem_map]
  constructor
  · rintro h ⟨p, hp, rfl⟩
    exact absurd (h p hp) (by simp)
  · exact fun h p hp => bne_iff_ne.mpr fun heq => h ⟨p, hp, heq.symm⟩

/-- A column that is there keeps its place; another one is put behind all. -/
theorem names_insert (r : Row) (column : String) (value : Option Cell) :
    (r.insert column value).names =
      if column ∈ r.names then r.names else r.names ++ [column] := by
  show (insertCell column value r.cells).map (·.1) = if column ∈ r.cells.map (·.1) then _ else _
  unfold names
  induction r.cells with
  | nil => simp [insertCell]
  | cons cell rest ih =>
    obtain ⟨name, held⟩ := cell
    rw [insertCell]
    by_cases hname : name = column
    · simp [hname]
    · have hother : column ∈ ((name, held) :: rest).map (·.1) ↔ column ∈ rest.map (·.1) := by
        rw [List.map_cons, List.mem_cons]
        exact or_iff_right (Ne.symm hname)
      rw [if_neg hname, List.map_cons, ih]
      simp only [hother]
      split <;> rfl

theorem names_withCells (r : Row) (cells : List (String × Option Cell)) :
    (r.withCells cells).names =
      r.names ++ ((cells.map (·.1)).removeAll r.names).eraseDups := by
  induction cells generalizing r with
  | nil => simp [withCells]
  | cons first rest ih =>
    obtain ⟨name, cell⟩ := first
    have hstep : r.withCells ((name, cell) :: rest) = (r.insert name cell).withCells rest := rfl
    rw [hstep, ih, names_insert, List.map_cons, List.cons_removeAll]
    by_cases hname : name ∈ r.names
    · rw [if_pos hname, if_neg (by simpa using hname)]
    · -- the new column is not to be counted again behind its place
      have hbehind : (rest.map (·.1)).removeAll (r.names ++ [name]) =
          ((rest.map (·.1)).removeAll r.names).filter fun other => !other == name := by
        unfold List.removeAll
        rw [List.filter_filter]
        refine List.filter_congr fun other _ => ?_
        rw [Bool.eq_iff_iff]
        simp [and_comm]
      rw [if_neg hname, if_pos (by simpa using hname), List.eraseDups_cons, hbehind,
        List.append_assoc]
      rfl

/-! ## Values -/

theorem withValues_eq (r : Row) (values : List (String × Cell)) :
    r.withValues values = r.withCells (values.map fun v => (v.1, some v.2)) := by
  unfold withCells
  rw [List.foldl_map]
  rfl

theorem get?_withValues (r : Row) (values : List (String × Cell)) (column : String) :
    (r.withValues values).get? column =
      ((values.reverse.lookup column).map some).or (r.get? column) := by
  rw [withValues_eq, get?_withCells, ← List.map_reverse, lookup_mapped]

theorem names_withValues (r : Row) (values : List (String × Cell)) :
    (r.withValues values).names =
      r.names ++ ((values.map (·.1)).removeAll r.names).eraseDups := by
  rw [withValues_eq, names_withCells, List.map_map]
  rfl

end TableFeed.Row
