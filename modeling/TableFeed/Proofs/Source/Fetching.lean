import TableFeed.Proofs.Table.Binding
import TableFeed.Source.SqlReader

/-!
# The rows of a result

All rows of a result go through one binding, which is filled again for each. Nothing of a row is left in
it for the next one: a row is what a binding of its own would give (`rowOf`), and a failure ends the
reading before anything could be left over.

* **`Holds`** — what a cell of a column holds: NULL, like a cell of a type without a decoder, holds
  nothing.
* **`RowFrom`** — what is in a row: each name once, where it stands first, with its last column.
* **`rowOf_rowFrom`** — the row of a binding of its own is like that.
* **`fetch_decoded`**, **`fetch_failed`** — the crux, by induction on the rows with any binding of the
  same columns: all rows are read, or the reading ends at the first cell that is no value of its type.
* **`rows_apart`** — both together.
-/

namespace TableFeed

namespace ColumnType

/-- What a cell of a type holds. -/
inductive Holds : ColumnType → Option (List UInt8) → Option Cell → Prop
  | null (type : ColumnType) : Holds type none none
  | undecoded (name : String) (bytes : List UInt8) : Holds (.other name) (some bytes) none
  | value {type : ColumnType} {bytes : List UInt8} {cell : Cell}
      (h : type.decode bytes = .ok (some cell)) : Holds type (some bytes) (some cell)

/-- Only bytes of a type without a decoder hold nothing. -/
theorem decode_eq_none {type : ColumnType} {bytes : List UInt8} (h : type.decode bytes = .ok none) :
    ∃ name, type = .other name := by
  -- what is put into `some` is not `none`
  have hmap : ∀ {ε α : Type} {x : Except ε α} {f : α → Cell},
      (x.map fun a => some (f a)) ≠ .ok none := by
    intro ε α x f
    cases x <;> simp [Except.map]
  have hbind : ∀ {ε α : Type} {x : Except ε α} {f : α → Except ε (Option Cell)},
      (∀ a, f a ≠ .ok none) → x.bind f ≠ .ok none := by
    intro ε α x f hf
    cases x with
    | error => simp [Except.bind]
    | ok a => exact hf a
  cases type with
  | other name => exact ⟨name, rfl⟩
  | char | int2 | int4 | int8 | oid | float4 | float8 | numeric | money | json | inet | text =>
    exact absurd h hmap
  | timestamptz | timestamp | date => exact absurd h (hbind fun _ => hmap)
  | time => exact absurd h (hbind fun _ => by simp [pure, Except.pure])
  | bool | uuid =>
    unfold decode at h
    dsimp only at h
    split at h <;> cases h
  | jsonb =>
    unfold decode at h
    dsimp only at h
    split at h
    · cases h
    · split at h
      · exact absurd h hmap
      · cases h
  | tree name =>
    unfold decode at h
    dsimp only at h
    split at h
    · exact absurd h hmap
    · cases h

theorem holds_of_decode {type : ColumnType} {bytes : List UInt8} {value : Option Cell}
    (h : type.decode bytes = .ok value) : Holds type (some bytes) value := by
  cases value with
  | some cell => exact .value h
  | none =>
    obtain ⟨name, rfl⟩ := decode_eq_none h
    exact .undecoded name bytes

end ColumnType

namespace SqlReader

/-- The columns of a result, and the cells of one of its rows. -/
abbrev Columns := List (String × ColumnType)

abbrev Cells := List (Option (List UInt8))

/-- The cell of a row at a place is no value of its column's type. -/
def FaultAt (columns : Columns) (cells : Cells) (j : Nat) (name : String) (cause : CellError) : Prop :=
  ∃ type bytes, columns[j]? = some (name, type) ∧ cells[j]? = some (some bytes) ∧
    type.decode bytes = .error cause

/-- Every cell of a row is a value of its column's type. -/
def Decodes (columns : Columns) (cells : Cells) : Prop :=
  ∀ j name cause, ¬ FaultAt columns cells j name cause

/-- A row holds the cells of a row of the result. -/
structure RowFrom (columns : Columns) (cells : Cells) (row : Row) : Prop where
  /-- There is one column for each name, where it stands first. -/
  names : row.names = (columns.map (·.1)).eraseDups
  /-- A column holds what the cell of its name's last column holds. -/
  value : ∀ (i : Nat) name type cell, columns[i]? = some (name, type) → cells[i]? = some cell →
    (∀ (j : Nat) other, i < j → columns[j]? ≠ some (name, other)) →
    ∃ value, ColumnType.Holds type cell value ∧ row.get? name = some value

/-- The row that some cells give in a binding of their own. -/
def rowOf (columns : Columns) (cells : Cells) : Row :=
  ((Binding.ofFields (columns.map (·.1))).scan (decodeColumn columns cells)).1.row

variable {columns : Columns} {cells : Cells}

/-! ## One row -/

theorem decodeColumn_null {i : Nat} (h : ∀ column bytes, columns[i]? = some column →
    cells[i]? ≠ some (some bytes)) : decodeColumn columns cells i = .ok none := by
  unfold decodeColumn
  split
  · rename_i hcolumn hcell
    exact absurd hcell (h _ _ hcolumn)
  · rfl

theorem decodeColumn_bytes {i : Nat} {name : String} {type : ColumnType} {bytes : List UInt8}
    (hcolumn : columns[i]? = some (name, type)) (hcell : cells[i]? = some (some bytes)) :
    decodeColumn columns cells i =
      (type.decode bytes).mapError fun cause => .decode name cause.message := by
  unfold decodeColumn
  rw [hcolumn, hcell]

/-- Taking a cell fails only if it is no value of its column's type. -/
theorem decodeColumn_error {i : Nat} (h : ∀ name cause, ¬ FaultAt columns cells i name cause) :
    ∃ value, decodeColumn columns cells i = .ok value := by
  by_cases hbytes : ∃ column bytes, columns[i]? = some column ∧ cells[i]? = some (some bytes)
  · obtain ⟨⟨name, type⟩, bytes, hcolumn, hcell⟩ := hbytes
    rw [decodeColumn_bytes hcolumn hcell]
    cases hdecode : type.decode bytes with
    | ok value => exact ⟨value, rfl⟩
    | error cause => exact absurd ⟨type, bytes, hcolumn, hcell, hdecode⟩ (h name cause)
  · refine ⟨none, decodeColumn_null fun column bytes hcolumn hcell => hbytes ?_⟩
    exact ⟨column, bytes, hcolumn, hcell⟩

theorem decodeColumn_fault {i : Nat} {name : String} {cause : CellError}
    (h : FaultAt columns cells i name cause) :
    decodeColumn columns cells i = .error (.decode name cause.message) := by
  obtain ⟨type, bytes, hcolumn, hcell, hdecode⟩ := h
  rw [decodeColumn_bytes hcolumn hcell, hdecode]
  rfl

theorem decodes_iff : Decodes columns cells ↔
    ∀ j < columns.length, (decodeColumn columns cells j).isOk = true := by
  constructor
  · intro h j _
    obtain ⟨value, hvalue⟩ := decodeColumn_error (h j)
    rw [hvalue]
    rfl
  · intro h j name cause hfault
    have hj : j < columns.length := by
      obtain ⟨_, _, hcolumn, -⟩ := hfault
      exact (List.getElem?_eq_some_iff.mp hcolumn).1
    have hok := h j hj
    rw [decodeColumn_fault hfault] at hok
    cases hok

instance (columns : Columns) (cells : Cells) : Decidable (Decodes columns cells) :=
  decidable_of_iff _ decodes_iff.symm

theorem holds_of_decodeColumn {i : Nat} {name : String} {type : ColumnType}
    {cell : Option (List UInt8)} {value : Option Cell} (hcolumn : columns[i]? = some (name, type))
    (hcell : cells[i]? = some cell) (h : decodeColumn columns cells i = .ok value) :
    type.Holds cell value := by
  cases cell with
  | none =>
    have hnull : decodeColumn columns cells i = .ok none :=
      decodeColumn_null fun _ _ _ hbytes => by rw [hcell] at hbytes; cases hbytes
    obtain rfl := Except.ok.inj (h.symm.trans hnull)
    exact .null type
  | some bytes =>
    rw [decodeColumn_bytes hcolumn hcell] at h
    cases hdecode : type.decode bytes with
    | error cause =>
      rw [hdecode] at h
      cases h
    | ok value' =>
      rw [hdecode] at h
      obtain rfl := Except.ok.inj h
      exact ColumnType.holds_of_decode hdecode

/-- A binding of the columns of a result, whatever stands in its slots. -/
structure Binds (b : Binding) (columns : Columns) : Prop where
  fields : b.fields = columns.map (·.1)
  slots : b.slots.length = columns.length

variable {b : Binding}

theorem binds_ofFields (columns : Columns) : Binds (.ofFields (columns.map (·.1))) columns :=
  ⟨rfl, by simp [Binding.ofFields]⟩

theorem Binds.scan (h : Binds b columns) (cells : Cells) :
    Binds (b.scan (decodeColumn columns cells)).1 columns :=
  ⟨h.fields, (Binding.length_fill _ _ _).trans h.slots⟩

/-- Cells that are all values of their types fill a binding. -/
theorem scan_decoded (b : Binding) (hcells : Decodes columns cells) :
    (b.scan (decodeColumn columns cells)).2 = none := by
  refine (Binding.fill_eq_none 0 b.slots).mpr fun j _ => ?_
  rw [Nat.zero_add]
  exact decodeColumn_error (hcells j)

/-- The first cell that is no value of its type ends the filling. -/
theorem Binds.scan_failed (h : Binds b columns) {j : Nat} {name : String} {cause : CellError}
    (hfault : FaultAt columns cells j name cause)
    (hbefore : ∀ k < j, ∀ name cause, ¬ FaultAt columns cells k name cause) :
    (b.scan (decodeColumn columns cells)).2 = some (.decode name cause.message) := by
  have hj : j < b.slots.length := by
    obtain ⟨_, _, hcolumn, -⟩ := hfault
    rw [h.slots]
    exact (List.getElem?_eq_some_iff.mp hcolumn).1
  refine Binding.fill_failed hj (fun k hk => ?_) ?_
  · rw [Nat.zero_add]
    exact decodeColumn_error (hbefore k hk)
  · rw [Nat.zero_add]
    exact decodeColumn_fault hfault

/-- A binding that was used before gives the row that a new one gives. -/
theorem Binds.row_scan (h : Binds b columns)
    (hdone : (b.scan (decodeColumn columns cells)).2 = none) :
    (b.scan (decodeColumn columns cells)).1.row = rowOf columns cells := by
  have hnew := binds_ofFields columns
  have hslots := (Binding.fill_refilled (decodeColumn columns cells) 0
    (h.slots.trans hnew.slots.symm)).2 hdone
  unfold rowOf Binding.scan
  dsimp only
  rw [hslots, h.fields, hnew.fields]

/-- The row that some cells give in a binding of their own holds them. -/
theorem rowOf_rowFrom (hcells : Decodes columns cells) :
    RowFrom columns cells (rowOf columns cells) := by
  have hnew := binds_ofFields columns
  have hdone := scan_decoded (.ofFields (columns.map (·.1))) hcells
  have hbinds := hnew.scan cells
  unfold rowOf
  refine ⟨by rw [Binding.names_row, hbinds.fields], fun i name type cell hcolumn hcell hlast => ?_⟩
  have hfield : (columns.map (·.1))[i]? = some name := by
    rw [List.getElem?_map, hcolumn]
    rfl
  -- the slot of the last column of the name
  obtain ⟨value, hvalue⟩ : ∃ value,
      (((Binding.ofFields (columns.map (·.1))).scan (decodeColumn columns cells)).1.slots)[i]? =
        some value := by
    refine ⟨_, List.getElem?_eq_getElem ?_⟩
    rw [hbinds.slots]
    exact (List.getElem?_eq_some_iff.mp hcolumn).1
  have htaken := Binding.fill_values hdone hvalue
  rw [Nat.zero_add] at htaken
  refine ⟨value, holds_of_decodeColumn hcolumn hcell htaken, ?_⟩
  rw [Binding.get?_row (List.mem_of_getElem? hfield), Binding.get?_last hfield hvalue]
  intro j hj hsame
  obtain ⟨⟨other, type⟩, hother, rfl⟩ := Option.map_eq_some_iff.mp (List.getElem?_map ▸ hsame)
  exact hlast j type hj hother

/-! ## All rows -/

theorem fetch_cons (columns : Columns) (b : Binding) (cells : Cells) (rest : List Cells) :
    (fetch columns b (cells :: rest)).1 =
      match (b.scan (decodeColumn columns cells)).2 with
      | some e => .error e
      | none => (fetch columns (b.scan (decodeColumn columns cells)).1 rest).1.map
          ((b.scan (decodeColumn columns cells)).1.row :: ·) := by
  rw [fetch]
  dsimp only
  split <;> rename_i h <;> rw [h]

/-- Rows whose cells are all values of their types are read, each for itself. -/
theorem fetch_decoded {rows : List Cells} (h : Binds b columns)
    (hrows : ∀ cells ∈ rows, Decodes columns cells) :
    (fetch columns b rows).1 = .ok (rows.map (rowOf columns)) := by
  induction rows generalizing b with
  | nil => rfl
  | cons cells rest ih =>
    have hdone := scan_decoded b (hrows cells List.mem_cons_self)
    have hrest := ih (h.scan cells) fun cells hcells => hrows cells (List.mem_cons_of_mem _ hcells)
    rw [fetch_cons, hdone]
    dsimp only
    rw [hrest, h.row_scan hdone]
    rfl

/-- The reading ends at the first cell that is no value of its type. -/
theorem fetch_failed {rows : List Cells} (h : Binds b columns) {i j : Nat} {name : String}
    {cause : CellError} (hrow : rows[i]? = some cells) (hfault : FaultAt columns cells j name cause)
    (hrows : ∀ k < i, ∀ cells, rows[k]? = some cells → Decodes columns cells)
    (hbefore : ∀ k < j, ∀ name cause, ¬ FaultAt columns cells k name cause) :
    (fetch columns b rows).1 = .error (.decode name cause.message) := by
  induction rows generalizing b i with
  | nil => cases hrow
  | cons first rest ih =>
    rw [fetch_cons]
    cases i with
    | zero =>
      obtain rfl := Option.some.inj hrow
      rw [h.scan_failed hfault hbefore]
    | succ i =>
      rw [scan_decoded b (hrows 0 (Nat.succ_pos i) first rfl)]
      dsimp only
      rw [ih (h.scan first) hrow fun k hk => hrows (k + 1) (Nat.succ_lt_succ hk)]
      rfl

/-- **Rows do not leak into each other.** Take any result, its columns with any names and types. If every
cell is a value of its column's type, there is one row for each row of the result, in order. It is the row
that those cells alone give, and it holds under each name, where that stands first, what the cell of the
name's last column holds; a NULL and a cell of a type without a decoder hold nothing. Otherwise, of the
cells that are no values of their types let one stand first, row by row and in a row from column to
column: then there are no rows, and the failure is that of this cell, under the name of its column. -/
theorem rows_apart (result : ResultSet) :
    let fetched := (fetch result.columns (.ofFields (result.columns.map (·.1))) result.rows).1
    ((∀ cells ∈ result.rows, Decodes result.columns cells) →
      fetched = .ok (result.rows.map (rowOf result.columns)) ∧
        ∀ cells ∈ result.rows, RowFrom result.columns cells (rowOf result.columns cells)) ∧
    ∀ (i j : Nat) cells name cause, result.rows[i]? = some cells →
      FaultAt result.columns cells j name cause →
      (∀ (i' j' : Nat) cells' name' cause', result.rows[i']? = some cells' →
        FaultAt result.columns cells' j' name' cause' → i < i' ∨ i = i' ∧ j ≤ j') →
      fetched = .error (.decode name cause.message) := by
  intro fetched
  have hbinds := binds_ofFields result.columns
  constructor
  · intro hrows
    exact ⟨fetch_decoded hbinds hrows, fun cells hcells => rowOf_rowFrom (hrows cells hcells)⟩
  · intro i j cells name cause hrow hfault hfirst
    refine fetch_failed hbinds hrow hfault ?_ ?_
    · intro k hk cells' hrow' j' name' cause' hfault'
      have := hfirst k j' cells' name' cause' hrow' hfault'
      omega
    · intro k hk name' cause' hfault'
      have := hfirst i k cells name' cause' hrow hfault'
      omega

/-- A result with a name twice and a column without a decoder. In its second row nothing stands where
the first one has values. -/
def repeated : ResultSet where
  columns := [("v", .int4), ("at", .other "point"), ("v", .int2)]
  rows := [[some [0, 0, 0, 1], some [0], some [0, 7]], [some [0, 0, 0, 2], none, none]]

/-- The same with two rows more, in which the last cell is too short and then the first one too. -/
def cutShort : ResultSet where
  columns := repeated.columns
  rows := repeated.rows ++ [[some [0, 0, 0, 3], none, some [0]], [some [0], none, some [0]]]

theorem rows_apart_repeated :
    (∀ cells ∈ repeated.rows, Decodes repeated.columns cells) ∧
      (fetch repeated.columns (.ofFields ["v", "at", "v"]) repeated.rows).1 =
        .ok [⟨[("v", some (.int 7)), ("at", none)]⟩, ⟨[("v", none), ("at", none)]⟩] ∧
      FaultAt cutShort.columns [some [0, 0, 0, 3], none, some [0]] 2 "v" .tooShort ∧
      (fetch cutShort.columns (.ofFields ["v", "at", "v"]) cutShort.rows).1 =
        .error (.decode "v" "failed to fill whole buffer") := by
  have hdecodes : ∀ cells ∈ repeated.rows, Decodes repeated.columns cells := by decide +kernel
  have hrows : repeated.rows.map (rowOf repeated.columns) =
      [⟨[("v", some (.int 7)), ("at", none)]⟩, ⟨[("v", none), ("at", none)]⟩] := by decide +kernel
  have hfault : FaultAt cutShort.columns [some [0, 0, 0, 3], none, some [0]] 2 "v" .tooShort :=
    ⟨.int2, [0], rfl, rfl, rfl⟩
  refine ⟨hdecodes, hrows ▸ ((rows_apart repeated).1 hdecodes).1, hfault,
    (rows_apart cutShort).2 2 2 _ "v" .tooShort rfl hfault ?_⟩
  intro i j cells name cause hrow hother
  -- the two rows in front of it have values, and so have the two cells
  match i with
  | 0 =>
    obtain rfl := Option.some.inj hrow
    exact absurd hother (hdecodes _ List.mem_cons_self j name cause)
  | 1 =>
    obtain rfl := Option.some.inj hrow
    exact absurd hother (hdecodes _ (List.mem_cons_of_mem _ List.mem_cons_self) j name cause)
  | 2 =>
    obtain rfl := Option.some.inj hrow
    refine .inr ⟨rfl, not_lt.mp fun hj => ?_⟩
    have hok : ∀ k < 2, (decodeColumn cutShort.columns [some [0, 0, 0, 3], none, some [0]] k).isOk =
        true := by decide +kernel
    have herror := hok j hj
    rw [decodeColumn_fault hother] at herror
    cases herror
  | i + 3 => exact .inl (by omega)

end SqlReader

end TableFeed
