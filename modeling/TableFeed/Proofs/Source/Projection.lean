import TableFeed.Proofs.Source.Reading
import TableFeed.Proofs.Text.Cutting

/-!
# Keeping some columns

A reader may be told which columns to keep. It reads the same records then, and gives the rows that it
would have given, cut down to those columns. Neither where it stands afterwards nor whether it fails
depends on the columns, and the order of the list and its repetitions show nowhere.

A row is cut after it is filled, while the reader leaves fields out before it fills the row. These are
the same as a column is set by its name: which fields share a name is not changed by leaving other names
out.

* **`Row.only_withValues`** — the crux: cutting a row down commutes with setting its columns.
* **`Narrows.values`** — the fields of a record that are left out are those of other columns.
* **`columns_project`** — a reading with a list of columns is a reading without, cut down.
-/

namespace TableFeed

/-! ## Rows cut down -/

namespace Row

variable {p : String → Bool}

/-- The row with the columns of a class only, in their order. -/
def only (r : Row) (p : String → Bool) : Row :=
  ⟨r.cells.filter fun cell => p cell.1⟩

/-- The row without the cell that identifies it. -/
def unidentified (r : Row) : Row :=
  r.only (· ≠ identityColumn)

theorem filter_insertCell (column : String) (value : Option Cell)
    (cells : List (String × Option Cell)) :
    (insertCell column value cells).filter (fun cell => p cell.1) =
      if p column then insertCell column value (cells.filter fun cell => p cell.1)
      else cells.filter fun cell => p cell.1 := by
  induction cells with
  | nil => cases h : p column <;> simp [insertCell, h]
  | cons cell rest ih =>
    obtain ⟨name, held⟩ := cell
    rw [insertCell]
    by_cases hname : name = column
    · -- the cell that is set anew stays or goes with its name
      subst hname
      cases h : p name <;> simp [insertCell, h]
    · rw [if_neg hname]
      cases h : p name <;> cases hc : p column <;> simp_all [insertCell]

theorem only_insert (r : Row) (column : String) (value : Option Cell) :
    (r.insert column value).only p =
      if p column then (r.only p).insert column value else r.only p := by
  have hcells := congrArg Row.mk (filter_insertCell (p := p) column value r.cells)
  rwa [apply_ite Row.mk] at hcells

/-- Cutting a row down leaves the values out that are set for other columns. -/
theorem only_withValues (r : Row) (values : List (String × Cell)) :
    (r.withValues values).only p = (r.only p).withValues (values.filter fun v => p v.1) := by
  induction values generalizing r with
  | nil => rfl
  | cons first rest ih =>
    have hstep : r.withValues (first :: rest) =
        (r.withValue first.1 first.2).withValues rest := rfl
    rw [hstep, ih, withValue, only_insert]
    cases h : p first.1 with
    | false => rw [List.filter_cons_of_neg (by simp [h])]; rfl
    | true => rw [List.filter_cons_of_pos (by simp [h])]; rfl

end Row

namespace FileReader

/-! ## Lists of columns -/

/-- A list names no column exactly if there is nothing in it but commas and white space. -/
theorem columnNames_eq_nil {text : String} :
    columnNames text = [] ↔ ∀ c ∈ text.toList, c = ',' ∨ Blank.isBlank c = true := by
  have hpieces : columnNames text = [] ↔ ∀ piece ∈ Split.every (· = ',') text.toList,
      ∀ c ∈ piece, Blank.isBlank c = true := by
    unfold columnNames
    rw [List.map_eq_nil_iff, List.filter_eq_nil_iff, List.forall_mem_map]
    refine forall₂_congr fun piece _ => ?_
    rw [decide_eq_true_eq, not_not, Blank.trimChars, Blank.trimBy_eq_nil]
  rw [hpieces, ← List.forall_mem_flatten, Split.flatten_every]
  simp only [List.mem_filter, Bool.not_eq_true', decide_eq_false_iff_not]
  exact forall_congr' fun c => by tauto

/-! ## Records cut down -/

/-- Two readers of one file that stand at one position. -/
structure Beside (r s : FileReader) : Prop where
  fileName : r.fileName = s.fileName
  position : r.position = s.position

variable {r s : FileReader}

/-- The two fail for the same reason or give rows of the same records, and stand at one position again.
So whatever is seen alike of the rows of all records is seen alike of the readings. -/
theorem Beside.read (h : Beside r s) {α : Type} {f g : Row → α}
    (hrows : ∀ header position l, (rows (r.headers header) position l).map f =
      (rows (s.headers header) position l).map g) (files : Files) :
    (r.read files).2.map (·.map f) = (s.read files).2.map (·.map g) ∧
      (r.read files).1.position = (s.read files).1.position := by
  unfold FileReader.read readContent
  rw [h.fileName]
  cases files.read s.fileName with
  | error cause => exact ⟨rfl, h.position⟩
  | ok content =>
    dsimp only
    cases Csv.records content with
    | nil => exact ⟨rfl, h.position⟩
    | cons header data =>
      dsimp only
      rw [h.position]
      cases data.drop s.position with
      | nil =>
        dsimp only
        by_cases hfirst : s.position = 0
        · rw [if_pos hfirst, if_pos hfirst]
          exact ⟨rfl, h.position⟩
        · rw [if_neg hfirst, if_neg hfirst]
          exact ⟨rfl, h.position⟩
      | cons record rest => exact ⟨congrArg Except.ok (hrows header s.position _), rfl⟩

/-- Only columns that one reader keeps and the other does not make a difference. -/
theorem Beside.read_eq (h : Beside r s) (hkeeps : ∀ column, r.keeps column = s.keeps column)
    (files : Files) : (r.read files).2 = (s.read files).2 ∧
      (r.read files).1.position = (s.read files).1.position := by
  have hheaders : ∀ header, r.headers header = s.headers header := by
    intro header
    unfold headers
    simp only [hkeeps]
  have hseen : ∀ out : Except ReadError (List Row), out.map (·.map id) = out := by
    rintro (cause | rows)
    · rfl
    · exact congrArg Except.ok (List.map_id rows)
  have hread := h.read (f := id) (g := id) (fun header _ _ => by rw [hheaders]) files
  rwa [hseen, hseen] at hread

/-- A reader that keeps the columns of a list, beside one that keeps all. -/
structure Narrows (r s : FileReader) : Prop extends Beside r s where
  listed : r.columns ≠ []
  unlisted : s.columns = []

/-- The fields that are left out of a record are those of columns that are not listed. -/
theorem Narrows.values (h : Narrows r s) (header record : Csv.Record) :
    (Given.mk (r.headers header) record).values =
      (Given.mk (s.headers header) record).values.filter fun v => v.1 ∈ r.columns := by
  have hr : ∀ name, r.keeps name = decide (name ∈ r.columns) := by
    intro name
    simp [keeps, h.listed]
  have hs : ∀ name, s.keeps name = true := by
    intro name
    simp [keeps, h.unlisted]
  unfold Given.values headers
  induction header generalizing record with
  | nil => simp
  | cons name header ih =>
    cases record with
    | nil => simp
    | cons field record =>
      have ih := ih record
      dsimp only at ih ⊢
      rw [List.map_cons, List.map_cons, List.zip_cons_cons, List.zip_cons_cons,
        List.filterMap_cons, List.filterMap_cons, ih, hr, hs]
      by_cases hname : Utf8.decodeLossy name ∈ r.columns <;> simp [hname]

/-- A row is the row with all columns, cut down to those that are listed. -/
theorem Narrows.row (h : Narrows r s) (header record : Csv.Record) (number : Nat) :
    (row (r.headers header) number record).unidentified =
      (row (s.headers header) number record).unidentified.only (· ∈ r.columns) := by
  have hr := Given.row_eq_withValues ⟨r.headers header, record⟩ number
  have hs := Given.row_eq_withValues ⟨s.headers header, record⟩ number
  dsimp only at hr hs
  -- without its identity a row begins with nothing, whatever its number
  have hstart : (Row.insert {} identityColumn (some (.uint number))).only (· ≠ identityColumn) = {} :=
    rfl
  unfold Row.unidentified
  rw [hr, hs, Row.only_withValues, Row.only_withValues, Row.only_withValues, hstart, h.values]
  exact congrArg (Row.withValues {}) (List.filter_comm _ _ _)

theorem Narrows.rows (h : Narrows r s) (header : Csv.Record) (position : Nat)
    (l : List Csv.Record) :
    (rows (r.headers header) position l).map Row.unidentified =
      (rows (s.headers header) position l).map fun row => row.unidentified.only (· ∈ r.columns) := by
  induction l generalizing position with
  | nil => rfl
  | cons record rest ih =>
    rw [FileReader.rows, FileReader.rows, List.map_cons, List.map_cons, ih, h.row]

/-- A reading gives the same records, and fails for the same reason. -/
theorem Narrows.read (h : Narrows r s) (files : Files) :
    (r.read files).2.map (·.map Row.unidentified) =
        (s.read files).2.map (·.map fun row => row.unidentified.only (· ∈ r.columns)) ∧
      (r.read files).1.position = (s.read files).1.position :=
  h.toBeside.read h.rows files

/-! ## Readers with lists -/

/-- The reader with another list of columns, prepared. -/
def withColumns (r : FileReader) (text : String) (access : ShareAccess) : FileReader :=
  ({ r with columnsText := text }.prepare access).1

theorem withColumns_columns (r : FileReader) (text : String) (access : ShareAccess) :
    (r.withColumns text access).columns = columnNames text := by
  unfold withColumns prepare
  dsimp only
  split
  · rfl
  · split <;> rfl

theorem beside_withColumns (r : FileReader) (text other : String) (access : ShareAccess) :
    Beside (r.withColumns text access) (r.withColumns other access) := by
  have hkept : ∀ text, (r.withColumns text access).fileName = r.fileName ∧
      (r.withColumns text access).position = r.position := by
    intro text
    unfold withColumns prepare
    dsimp only
    split
    · exact ⟨rfl, rfl⟩
    · split <;> exact ⟨rfl, rfl⟩
  exact ⟨(hkept text).1.trans (hkept other).1.symm, (hkept text).2.trans (hkept other).2.symm⟩

/-- What a reader keeps does not depend on the order of its list, or on repetitions. -/
theorem keeps_withColumns (r : FileReader) (access : ShareAccess) {text other : String}
    (h : ∀ name, name ∈ columnNames text ↔ name ∈ columnNames other) (column : String) :
    (r.withColumns text access).keeps column = (r.withColumns other access).keeps column := by
  have hnil : (columnNames text).isEmpty = (columnNames other).isEmpty := by
    rw [Bool.eq_iff_iff, List.isEmpty_iff, List.isEmpty_iff, List.eq_nil_iff_forall_not_mem,
      List.eq_nil_iff_forall_not_mem]
    simp only [h]
  unfold keeps
  rw [withColumns_columns, withColumns_columns, hnil]
  simp only [h]

/-- **A list of columns is a projection.** Let a reader, wherever it stands, read a file with a list of
columns and without one. If the list names a column, both readings fail for the same reason or both give
rows, as many; but for the cell that identifies it, each row of the first is the one of the second with
the listed columns only, in the order that they have there. If there is nothing in the list but commas
and white space, both readings are the same, and so are readings with lists that name the same columns,
in any order and however often. In each case the readers stand at the same position afterwards. -/
theorem columns_project (r : FileReader) (access : ShareAccess) (text : String) (files : Files) :
    let listed := (r.withColumns text access).read files
    let all := (r.withColumns "" access).read files
    (columnNames text ≠ [] →
      listed.2.map (·.map Row.unidentified) =
        all.2.map (·.map fun row => row.unidentified.only (· ∈ columnNames text)) ∧
      listed.1.position = all.1.position) ∧
    ((∀ c ∈ text.toList, c = ',' ∨ Blank.isBlank c = true) →
      listed.2 = all.2 ∧ listed.1.position = all.1.position) ∧
    ∀ other, (∀ name, name ∈ columnNames other ↔ name ∈ columnNames text) →
      ((r.withColumns other access).read files).2 = listed.2 ∧
        ((r.withColumns other access).read files).1.position = listed.1.position := by
  intro listed all
  have hempty : columnNames "" = [] := by decide
  refine ⟨fun hnames => ?_, fun hblank => ?_, fun other hother => ?_⟩
  · have hnarrows : Narrows (r.withColumns text access) (r.withColumns "" access) :=
      ⟨r.beside_withColumns text "" access, by rwa [withColumns_columns],
        by rw [withColumns_columns, hempty]⟩
    have hread := hnarrows.read files
    rwa [withColumns_columns] at hread
  · have hnone : ∀ name, name ∈ columnNames text ↔ name ∈ columnNames "" := by
      intro name
      rw [columnNames_eq_nil.mpr hblank, hempty]
    exact (r.beside_withColumns text "" access).read_eq (r.keeps_withColumns access hnone) files
  · exact (r.beside_withColumns other text access).read_eq (r.keeps_withColumns access hother) files

/-- The records are of any lengths and the header has a name twice, as has the list. -/
theorem columns_project_ragged :
    let r : FileReader := { fileName := "a.csv", position := 1 }
    let listed := (r.withColumns " u ,,t,u" {}).read ragged
    columnNames " u ,,t,u" = ["u", "t", "u"] ∧
      ((r.withColumns "" {}).read ragged).2.toOption.map (·.map Row.names) =
        some [["mfx_id", "t", "h", "u"], ["mfx_id", "t", "h"], ["mfx_id", "t"]] ∧
      (listed.2.map (·.map Row.unidentified)).toOption =
        some [⟨[("t", some (.int 4)), ("u", some (.int 5))]⟩, ⟨[("t", some (.text "\ufffd"))]⟩,
          ⟨[("t", some (.int 8))]⟩] ∧
      ((r.withColumns "t,u" {}).read ragged).2 = listed.2 := by
  intro r listed
  have hnames : columnNames " u ,,t,u" = ["u", "t", "u"] := by decide +kernel
  have hother : columnNames "t,u" = ["t", "u"] := by decide +kernel
  obtain ⟨hproject, -, hsame⟩ := columns_project r {} " u ,,t,u" ragged
  have hrows := (hproject (by rw [hnames]; decide)).1
  refine ⟨hnames, by decide +kernel, ?_, (hsame "t,u" fun name => ?_).1⟩
  · rw [hrows, hnames]
    decide +kernel
  · rw [hnames, hother]
    simp only [List.mem_cons, List.not_mem_nil, or_false]
    tauto

end FileReader

end TableFeed
