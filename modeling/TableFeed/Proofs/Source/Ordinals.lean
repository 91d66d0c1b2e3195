import Mathlib.Data.List.Nodup
import Mathlib.Data.List.Range
import TableFeed.Proofs.Source.Increments
import TableFeed.Proofs.Table.Row
import TableFeed.Publishing.Batch

/-!
# The ordinals of rows

A reader counts the records that it gives, and the count of a record is the identity of its row. The
fields of the record are set behind it in the row, each under the name that the header has for it, so a
header that names a field like the identity column puts that field in the place of the count.

`FileReader.readAll` reads again and again, whatever the file is each time; `FileReader.givenAll` are the
records it gives, each with the columns of its header.

* **`get?_identity`** — the identity of a row is the last field of that name, or the count.
* **`read_given`** — the crux: a reading gives rows that are counted on from the position, and moves the
  position behind them.
* **`readAll_eq`** — so the rows of all readings are counted as one list.
* **`ordinals_iff`** — they are identified by their counts exactly if no field of a record stands for
  another identity, and then their samples have different names.
-/

namespace TableFeed

/-- What rows are identified by. -/
def identities (rows : List Row) : List (Option (Option Cell)) :=
  rows.map (·.get? identityColumn)

/-- The counts from behind a position, as identities. -/
def ordinals (position count : Nat) : List (Option (Option Cell)) :=
  (List.range' (position + 1) count).map fun n => some (some (.uint n))

namespace FileReader

/-- A record that a reader gives, with the columns of the header that it was read under. -/
structure Given where
  columns : List (Option String)
  record : Csv.Record
  deriving DecidableEq, Repr

namespace Given

/-- The values of the fields that have a column. -/
def values (g : Given) : List (String × Cell) :=
  (g.record.zip g.columns).filterMap fun (field, column) =>
    column.map fun name => (name, Cell.infer (Utf8.decodeLossy field))

/-- The value of the last field with the name of the identity column. -/
def ownIdentity? (g : Given) : Option Cell :=
  g.values.reverse.lookup identityColumn

theorem row_eq_withValues (g : Given) (number : Nat) :
    row g.columns number g.record =
      (Row.insert {} identityColumn (some (.uint number))).withValues g.values := by
  unfold row Row.withValues values
  generalize Row.insert {} identityColumn (some (.uint number)) = start
  induction g.record.zip g.columns generalizing start with
  | nil => rfl
  | cons entry rest ih =>
    obtain ⟨field, _ | name⟩ := entry
    · exact ih start
    · exact ih _

theorem get?_identity (g : Given) (number : Nat) :
    (row g.columns number g.record).get? identityColumn =
      some (some (g.ownIdentity?.getD (.uint number))) := by
  rw [row_eq_withValues, Row.get?_withValues, Row.get?_insert, if_pos rfl]
  unfold ownIdentity?
  cases g.values.reverse.lookup identityColumn <;> rfl

/-- Only a column with the name of the identity column gives a record an identity of its own. -/
theorem ownIdentity?_eq_none {g : Given} (h : some identityColumn ∉ g.columns) :
    g.ownIdentity? = none := by
  rw [ownIdentity?, List.lookup_eq_none_iff]
  intro entry hentry
  obtain ⟨⟨field, column⟩, hzip, hname⟩ := List.mem_filterMap.mp (List.mem_reverse.mp hentry)
  obtain ⟨name, rfl, rfl⟩ := Option.map_eq_some_iff.mp hname
  refine bne_iff_ne.mpr fun heq : identityColumn = name => h ?_
  rw [heq]
  exact (List.of_mem_zip hzip).2

end Given

/-- The rows of records, counted on from a position. -/
def counted : Nat → List Given → List Row
  | _, [] => []
  | position, g :: rest => row g.columns (position + 1) g.record :: counted (position + 1) rest

theorem counted_append (position : Nat) (given more : List Given) :
    counted position (given ++ more) =
      counted position given ++ counted (position + given.length) more := by
  induction given generalizing position with
  | nil => rfl
  | cons g rest ih =>
    rw [List.cons_append, counted, ih, counted, List.length_cons, Nat.add_right_comm, Nat.add_assoc]
    rfl

/-- The records of a content that have not been given. -/
def givenOf (r : FileReader) (content : List UInt8) : List Given :=
  match Csv.records content with
  | [] => []
  | header :: data => (data.drop r.position).map (Given.mk (r.headers header))

/-- The records that a reading gives. -/
def given (r : FileReader) (files : Files) : List Given :=
  match files.read r.fileName with
  | .error _ => []
  | .ok content => r.givenOf content

/-- The rows of readings one after the other. One that fails has none. -/
def readAll : List Files → FileReader → List Row
  | [], _ => []
  | files :: later, r =>
    let (r', result) := r.read files
    result.toOption.getD [] ++ readAll later r'

/-- The records that readings give one after the other. -/
def givenAll : List Files → FileReader → List Given
  | [], _ => []
  | files :: later, r => r.given files ++ givenAll later (r.read files).1

theorem counted_rows (columns : List (Option String)) (position : Nat) (l : List Csv.Record) :
    counted position (l.map (Given.mk columns)) = rows columns position l := by
  induction l generalizing position with
  | nil => rfl
  | cons record rest ih => rw [List.map_cons, counted, ih, rows]

theorem readContent_given (r : FileReader) (content : List UInt8) :
    (r.readContent content).2.toOption.getD [] = counted r.position (r.givenOf content) ∧
      (r.readContent content).1 =
        { r with position := r.position + (r.givenOf content).length } := by
  unfold readContent givenOf
  cases Csv.records content with
  | nil => exact ⟨rfl, rfl⟩
  | cons header data =>
    dsimp only
    cases hfresh : data.drop r.position with
    | nil =>
      -- nothing is left: whether that is a failure or not, no row is given
      dsimp only
      split <;> exact ⟨rfl, rfl⟩
    | cons record rest =>
      rw [counted_rows, List.length_map]
      exact ⟨rfl, rfl⟩

/-- A reading gives rows that are counted on from the position, and moves the position behind them. -/
theorem read_given (r : FileReader) (files : Files) :
    (r.read files).2.toOption.getD [] = counted r.position (r.given files) ∧
      (r.read files).1 = { r with position := r.position + (r.given files).length } := by
  unfold read given
  cases files.read r.fileName with
  | error cause => exact ⟨rfl, rfl⟩
  | ok content => exact r.readContent_given content

theorem readAll_eq (readings : List Files) (r : FileReader) :
    r.readAll readings = counted r.position (r.givenAll readings) := by
  induction readings generalizing r with
  | nil => rfl
  | cons files later ih =>
    obtain ⟨hrows, hreader⟩ := r.read_given files
    have hstep : r.readAll (files :: later) =
        (r.read files).2.toOption.getD [] ++ (r.read files).1.readAll later := rfl
    rw [hstep, givenAll, counted_append, ← hrows, ih, hreader]

/-- The columns of the records that a reader gives are columns that it keeps. -/
theorem given_keeps (r : FileReader) (files : Files) {g : Given} (hg : g ∈ r.given files)
    {name : String} (hname : some name ∈ g.columns) : r.keeps name = true := by
  unfold given at hg
  split at hg
  · cases hg
  · unfold givenOf at hg
    split at hg
    · cases hg
    · obtain ⟨record, -, rfl⟩ := List.mem_map.mp hg
      obtain ⟨field, -, hfield⟩ := List.mem_map.mp hname
      dsimp only at hfield
      split at hfield
      · rename_i hkeeps
        exact Option.some.inj hfield ▸ hkeeps
      · cases hfield

theorem givenAll_keeps (r : FileReader) (readings : List Files) {g : Given}
    (hg : g ∈ r.givenAll readings) {name : String} (hname : some name ∈ g.columns) :
    r.keeps name = true := by
  induction readings generalizing r with
  | nil => cases hg
  | cons files later ih =>
    rw [givenAll, List.mem_append, (r.read_given files).2] at hg
    rcases hg with hg | hg
    · exact r.given_keeps files hg hname
    · exact ih { r with position := r.position + (r.given files).length } hg

/-- Rows are identified by their counts exactly if every record that has an identity of its own has its
count for one. -/
theorem ordinals_iff (position : Nat) (given : List Given) :
    identities (counted position given) = ordinals position given.length ↔
      ∀ (i : Nat) (g : Given), given[i]? = some g →
        ∀ own ∈ g.ownIdentity?, own = .uint (position + i + 1) := by
  induction given generalizing position with
  | nil => exact iff_of_true rfl fun i g hg => nomatch hg
  | cons g rest ih =>
    have hfirst : some (some (g.ownIdentity?.getD (.uint (position + 1)))) =
        some (some (Cell.uint (position + 1))) ↔
          ∀ own ∈ g.ownIdentity?, own = .uint (position + 1) := by
      cases g.ownIdentity? with
      | none => exact iff_of_true rfl fun own hown => by cases hown
      | some own => simp
    have hplace : ∀ i, position + (i + 1) + 1 = position + 1 + i + 1 := fun i => by omega
    -- the first record has to have its count, and the others are counted on from there
    have hsplit : identities (counted position (g :: rest)) =
          ordinals position (g :: rest).length ↔
        (∀ own ∈ g.ownIdentity?, own = .uint (position + 1)) ∧
          identities (counted (position + 1) rest) = ordinals (position + 1) rest.length := by
      rw [← hfirst, ← g.get?_identity]
      exact List.cons_eq_cons
    rw [hsplit, ih]
    constructor
    · rintro ⟨hg, hrest⟩ (_ | i) g' hi
      · obtain rfl : g = g' := Option.some.inj hi
        exact hg
      · rw [hplace]
        exact hrest i g' hi
    · intro h
      refine ⟨h 0 g rfl, fun i g' hi => ?_⟩
      rw [← hplace]
      exact h (i + 1) g' hi

end FileReader

/-- The name of a sample, by the identity of its row. -/
def nameOf : Option (Option Cell) → String
  | some (some value) => value.display
  | _ => identityColumn

/-- Rows that are identified by their counts have samples of different names. -/
theorem nodup_sampleNames {rows : List Row} {position count : Nat}
    (h : identities rows = ordinals position count) : (rows.map Batch.sampleName).Nodup := by
  -- a count is the digits of its name, so different counts have different names
  have hinjective : Function.Injective (toString : Nat → String) := by
    intro m n hmn
    have hdigits : Nat.toDigits 10 m = Nat.toDigits 10 n := String.ofList_injective hmn
    rw [← Nat.ofDigitChars_ten_toDigits (n := m), hdigits, Nat.ofDigitChars_ten_toDigits]
  have hnames : rows.map Batch.sampleName = (List.range' (position + 1) count).map toString := by
    calc rows.map Batch.sampleName = (identities rows).map nameOf := by
          rw [identities, List.map_map]
          rfl
      _ = (List.range' (position + 1) count).map toString := by
          rw [h, ordinals, List.map_map]
          rfl
  rw [hnames]
  exact (List.nodup_range' _).map hinjective

namespace FileReader

/-- **Rows are identified by their ordinals.** The rows that a reader gives, whatever the file is each
time it is read, are the records behind its position, counted on from there. Each is identified by its
count, unless its record has a field under the name of the identity column: then that field is its
identity. So the identities of all rows are their counts exactly if there is no such field with another
value, and then the samples of any two rows have different names. -/
theorem identified_by_ordinal (readings : List Files) (r : FileReader) :
    r.readAll readings = counted r.position (r.givenAll readings) ∧
      (∀ (g : Given) (n : Nat), (row g.columns n g.record).get? identityColumn =
        some (some (g.ownIdentity?.getD (.uint n)))) ∧
      (identities (r.readAll readings) = ordinals r.position (r.givenAll readings).length ↔
        ∀ (i : Nat) (g : Given), (r.givenAll readings)[i]? = some g →
          ∀ own ∈ g.ownIdentity?, own = .uint (r.position + i + 1)) ∧
      (identities (r.readAll readings) = ordinals r.position (r.givenAll readings).length →
        ((r.readAll readings).map Batch.sampleName).Nodup) ∧
      (r.keeps identityColumn = false →
        identities (r.readAll readings) = ordinals r.position (r.givenAll readings).length) := by
  have hordinals := ordinals_iff r.position (r.givenAll readings)
  rw [readAll_eq]
  refine ⟨rfl, Given.get?_identity, hordinals, nodup_sampleNames, fun hkeeps => ?_⟩
  refine hordinals.mpr fun i g hg own hown => ?_
  have hnone : g.ownIdentity? = none := Given.ownIdentity?_eq_none fun hcolumn => by
    have hkept := r.givenAll_keeps readings (List.mem_of_getElem? hg) hcolumn
    rw [hkeeps] at hkept
    cases hkept
  rw [hnone] at hown
  cases hown

/-- A file that has a column with the name of the identity column, and the same file with more in it. -/
def claimed : List Files :=
  [⟨[(["a.csv".toList], .file (Utf8.bytes "mfx_id,t\n7,1\n7,2\n"))]⟩,
   ⟨[(["a.csv".toList], .file (Utf8.bytes "mfx_id,t\n7,1\n7,2\n7,3\n"))]⟩]

/-- A reader that keeps only the other column, -/
def keepingOther : FileReader where
  fileName := "a.csv"
  columns := ["t"]

theorem identified_by_ordinal_keepingOther :
    identities (keepingOther.readAll claimed) = ordinals 0 3 ∧
      ((keepingOther.readAll claimed).map Batch.sampleName).Nodup := by
  obtain ⟨-, -, -, hnodup, hkeeps⟩ := identified_by_ordinal claimed keepingOther
  have hcount : (keepingOther.givenAll claimed).length = 3 := by decide +kernel
  have hordinals := hkeeps (by decide)
  refine ⟨?_, hnodup hordinals⟩
  rw [hordinals, hcount]
  rfl

/-- and one that keeps both. -/
def keepingBoth : FileReader where
  fileName := "a.csv"

/-- The field under the name of the identity column identifies the rows, and different rows have samples
of the same name. -/
theorem identity_claimed :
    identities (keepingBoth.readAll claimed) = List.replicate 3 (some (some (.int 7))) ∧
      identities (keepingBoth.readAll claimed) ≠ ordinals 0 3 ∧
      (keepingBoth.readAll claimed).map Batch.sampleName = ["7", "7", "7"] := by
  decide +kernel

end FileReader

end TableFeed
