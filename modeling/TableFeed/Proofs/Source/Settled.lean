import TableFeed.Proofs.Json.Kinds
import TableFeed.Proofs.Json.Values
import TableFeed.Proofs.Source.Files
import TableFeed.Proofs.Table.Csv

/-!
# Readers and their metadata

A reader is made from metadata and then prepared, which fills in what the metadata left out. What
comes of that is settled: preparing it again changes nothing, and its metadata describes it.

* **`Reader.ofMetadata_settled`** — every reader that was prepared is settled, whatever it was made from.
* **`Reader.ofMetadata_metadata`** — the crux: a settled reader is made from its metadata again.
* **`FileReader.reads_metadata`**, **`Reader.reads_metadata`** — its metadata is read as it is
  written, but for an interval that is not read as itself.
* **`Reader.read_settled`** — reading keeps it settled.
-/

namespace TableFeed

open Json (InRange)
open Json.Read (ReadAs Rereading)

/-! ## Records of readers -/

theorem FileReader.schema_proper : FileReader.schema.Proper where
  names := by decide
  defaults := by
    intro f hf d hd
    simp only [FileReader.schema, List.mem_cons, List.not_mem_nil, or_false] at hf
    rcases hf with rfl | rfl | rfl | rfl | rfl
    · cases hd
    · exact ⟨_, (Option.some.inj hd).symm⟩
    · exact ⟨_, Binary64.isCanonical_zero false, (Option.some.inj hd).symm⟩
    · exact ⟨_, (Option.some.inj hd).symm⟩
    · exact ⟨0, by decide, (Option.some.inj hd).symm⟩

theorem SqlReader.schema_proper : SqlReader.schema.Proper where
  names := by decide
  defaults := by
    intro f hf d hd
    simp only [SqlReader.schema, List.mem_cons, List.not_mem_nil, or_false] at hf
    rcases hf with rfl | rfl | rfl | rfl | rfl | rfl | rfl | rfl | rfl | rfl | rfl
    all_goals first
      | exact ⟨_, (Option.some.inj hd).symm⟩
      | exact ⟨_, Binary64.isCanonical_zero false, (Option.some.inj hd).symm⟩
      | exact ⟨0, by decide, (Option.some.inj hd).symm⟩
      | cases hd

namespace FileReader

/-- A reader of a file as preparing leaves it. -/
structure Settled (r : FileReader) : Prop where
  columns : r.columns = columnNames r.columnsText
  interval : r.interval.IsCanonical
  set : isUnset r.interval = false
  position : r.position < 2 ^ 64

/-- A reader that metadata describes has a finite interval and a position of 64 bits. -/
theorem ofMetadata_ranges {v : Json} {r : FileReader} (hv : v.InRange)
    (h : ofMetadata v = .ok r) : r.interval.IsCanonical ∧ r.position < 2 ^ 64 := by
  unfold ofMetadata at h
  obtain ⟨values, hvalues, h⟩ := ok_of_bind h
  have hkinds := Json.Schema.ofJson_holds schema_proper hv hvalues
  split at h
  · rename_i fileName columns interval dbType position
    rw [← Except.ok.inj h]
    rcases hkinds with _ | ⟨-, _ | ⟨-, _ | ⟨hinterval, _ | ⟨-, _ | ⟨hposition, -⟩⟩⟩⟩⟩
    obtain ⟨x, hx, rfl⟩ := hinterval
    obtain ⟨n, hn, rfl⟩ := hposition
    exact ⟨hx, hn⟩
  · cases h

/-- The share that holds its file makes no difference to the reader. -/
theorem prepare_eq (r : FileReader) (access : ShareAccess) : (r.prepare access).1 = { r with
    columns := columnNames r.columnsText
    interval :=
      if isUnset r.interval then .ofInt Duration.defaultIntervalSeconds else r.interval } := by
  simp only [prepare]
  split
  · rfl
  · split <;> rfl

/-- Preparing settles a reader. -/
theorem prepare_settled {r : FileReader} (access : ShareAccess)
    (h : r.interval.IsCanonical ∧ r.position < 2 ^ 64) : (r.prepare access).1.Settled := by
  rw [prepare_eq]
  refine ⟨rfl, ?_, ?_, h.2⟩
  · dsimp only
    split
    · exact Json.Read.ofInt_canonical (by decide)
    · exact h.1
  · dsimp only
    split
    · decide
    · rename_i hset
      exact Bool.eq_false_iff.mpr hset

/-- The reader without what preparing makes of its metadata. -/
def unprepared (r : FileReader) : FileReader :=
  { r with columns := [] }

/-- Preparing makes a settled reader what it was. -/
theorem prepare_unprepared {r : FileReader} (h : r.Settled) (access : ShareAccess) :
    (r.unprepared.prepare access).1 = r := by
  have hinterval : (if isUnset r.interval then .ofInt Duration.defaultIntervalSeconds
      else r.interval) = r.interval := if_neg (by simp [h.set])
  rw [prepare_eq, unprepared, hinterval, ← h.columns]

theorem metadata_known {r : FileReader} (hinterval : r.interval.IsCanonical)
    (hposition : r.position < 2 ^ 64) :
    ∃ fields, r.metadata = .object fields ∧ schema.Known fields := by
  refine ⟨_, rfl, ?_⟩
  have hnumber : Json.ofBinary64 r.interval = .float r.interval := if_pos hinterval.isFinite
  intro e he
  rw [hnumber] at he
  simp only [optionalField, List.mem_append, List.mem_singleton] at he
  rcases he with (((rfl | he) | rfl) | he) | rfl
  · exact ⟨_, rfl, _, rfl⟩
  · split at he
    · cases he
    · rw [List.mem_singleton.mp he]
      exact ⟨_, rfl, _, rfl⟩
  · exact ⟨_, rfl, _, hinterval, rfl⟩
  · split at he
    · cases he
    · rw [List.mem_singleton.mp he]
      exact ⟨_, rfl, _, rfl⟩
  · exact ⟨_, rfl, _, hposition, rfl⟩

/-- The metadata of a reader describes it. -/
theorem ofMetadata_metadata {r : FileReader} (hinterval : r.interval.IsCanonical)
    (hposition : r.position < 2 ^ 64) : ofMetadata r.metadata = .ok r.unprepared := by
  have hnumber : Json.ofBinary64 r.interval = .float r.interval := if_pos hinterval.isFinite
  have hempty : ∀ {s : String}, s.isEmpty = true → s = "" := fun h => String.isEmpty_iff.mp h
  obtain ⟨fields, hfields, hknown⟩ := metadata_known hinterval hposition
  rw [ofMetadata, hfields, Json.Schema.ofJson_object hknown]
  have hvalues : Json.Schema.assemble fields schema.fields = .ok [.string r.fileName,
      .string r.columnsText, .float r.interval, .string r.dbType, .int r.position] := by
    rw [← Json.object.inj hfields, hnumber]
    by_cases hcolumns : r.columnsText.isEmpty = true
    · by_cases hdb : r.dbType.isEmpty = true
      · rw [hempty hcolumns, hempty hdb]
        rfl
      · rw [hempty hcolumns, optionalField, optionalField, if_neg hdb]
        rfl
    · by_cases hdb : r.dbType.isEmpty = true
      · rw [hempty hdb, optionalField, if_neg hcolumns]
        rfl
      · rw [optionalField, optionalField, if_neg hcolumns, if_neg hdb]
        rfl
  rw [hvalues]
  rfl

/-- A field that is left out if it is empty, and what it is read as. -/
def optionalReading (name text : String) : Rereading :=
  if text.isEmpty then [] else [(name, .string text, .string text)]

/-- The fields of a reader's metadata, and what they are read as when its interval is read as
another number. -/
def rereading (r : FileReader) (y : Binary64) : Rereading :=
  [("filename", .string r.fileName, .string r.fileName)] ++
    optionalReading "columns" r.columnsText ++ [("interval", .float r.interval, .float y)] ++
    optionalReading "dbtype" r.dbType ++ [("header_pos", .int r.position, .int r.position)]

theorem rereading_written {r : FileReader} (y : Binary64) (h : r.interval.IsCanonical) :
    .object (Rereading.written (r.rereading y)) = r.metadata := by
  unfold rereading metadata optionalReading optionalField
  rw [show Json.ofBinary64 r.interval = .float r.interval from if_pos h.isFinite]
  split <;> split <;> rfl

theorem rereading_read (r : FileReader) {y : Binary64} (h : y.IsCanonical) :
    .object (Rereading.read (r.rereading y)) = { r with interval := y }.metadata := by
  unfold rereading metadata optionalReading optionalField
  rw [show Json.ofBinary64 y = .float y from if_pos h.isFinite]
  split <;> split <;> rfl

/-- The metadata of a reader is read as it is written, with what its interval is read as. -/
theorem reads_metadata {r : FileReader} {y : Binary64} (hinterval : r.interval.IsCanonical)
    (hposition : r.position < 2 ^ 64) (hy : y.IsCanonical) {depth : Nat}
    (hread : ReadAs depth (.float r.interval) (.float y)) :
    ReadAs (depth + 1) r.metadata { r with interval := y }.metadata := by
  have hkept : ∀ (name text : String), ∀ e ∈ optionalReading name text,
      ReadAs depth e.2.1 e.2.2 := by
    intro name text e he
    unfold optionalReading at he
    split at he
    · cases he
    · rw [List.mem_singleton.mp he]
      exact Json.Read.reads_string depth text
  rw [← rereading_written y hinterval, ← rereading_read r hy]
  refine Json.Read.reads_object ?_ ?_
  · intro e he
    simp only [rereading, List.mem_append, List.mem_singleton] at he
    rcases he with (((rfl | he) | rfl) | he) | rfl
    · exact Json.Read.reads_string depth r.fileName
    · exact hkept _ _ e he
    · exact hread
    · exact hkept _ _ e he
    · exact Json.Read.reads_int depth (by omega) (by omega)
  · unfold rereading optionalReading
    split <;> split <;> simp

end FileReader

namespace SqlReader

/-- A reader of a table as preparing leaves it. -/
structure Settled (r : SqlReader) : Prop where
  condition : Blank.isEmpty r.condition = false
  columns : Blank.isEmpty r.columns = false
  interval : r.interval.IsCanonical
  port : r.port < 2 ^ 16

/-- A reader that metadata describes has a finite interval and a port of 16 bits. -/
theorem ofMetadata_ranges {v : Json} {r : SqlReader} (hv : v.InRange)
    (h : ofMetadata v = .ok r) : r.interval.IsCanonical ∧ r.port < 2 ^ 16 := by
  unfold ofMetadata at h
  obtain ⟨values, hvalues, h⟩ := ok_of_bind h
  have hkinds := Json.Schema.ofJson_holds schema_proper hv hvalues
  split at h
  · rw [← Except.ok.inj h]
    rcases hkinds with _ | ⟨-, _ | ⟨-, _ | ⟨-, _ | ⟨hport, _ | ⟨-, _ | ⟨-, _ | ⟨-, _ | ⟨-, _ |
      ⟨-, _ | ⟨-, _ | ⟨hinterval, -⟩⟩⟩⟩⟩⟩⟩⟩⟩⟩⟩
    obtain ⟨x, hx, rfl⟩ := hinterval
    obtain ⟨n, hn, rfl⟩ := hport
    exact ⟨hx, hn⟩
  · cases h

/-- Preparing settles a reader. -/
theorem prepare_settled {r : SqlReader} (h : r.interval.IsCanonical ∧ r.port < 2 ^ 16) :
    r.prepare.Settled := by
  have hfilled : ∀ {s t : String}, Blank.isEmpty t = false →
      Blank.isEmpty (if Blank.isEmpty s then t else s) = false := by
    intro s t ht
    split
    · exact ht
    · rename_i hs
      exact Bool.eq_false_iff.mpr hs
  exact ⟨hfilled (by decide), hfilled (by decide), h.1, h.2⟩

/-- Preparing leaves a settled reader as it is. -/
theorem prepare_of_settled {r : SqlReader} (h : r.Settled) : r.prepare = r := by
  unfold prepare
  rw [if_neg (by simp [h.columns]), if_neg (by simp [h.condition])]

theorem metadata_known {r : SqlReader} (hinterval : r.interval.IsCanonical)
    (hport : r.port < 2 ^ 16) :
    ∃ fields, r.metadata = .object fields ∧ schema.Known fields := by
  refine ⟨_, rfl, ?_⟩
  have hnumber : Json.ofBinary64 r.interval = .float r.interval := if_pos hinterval.isFinite
  intro e he
  rw [hnumber] at he
  simp only [List.mem_cons, List.not_mem_nil, or_false] at he
  rcases he with rfl | rfl | rfl | rfl | rfl | rfl | rfl | rfl | rfl | rfl | rfl
  all_goals first
    | exact ⟨_, rfl, _, rfl⟩
    | exact ⟨_, rfl, _, hport, rfl⟩
    | exact ⟨_, rfl, _, hinterval, rfl⟩

/-- The metadata of a reader describes it. -/
theorem ofMetadata_metadata {r : SqlReader} (hinterval : r.interval.IsCanonical)
    (hport : r.port < 2 ^ 16) : ofMetadata r.metadata = .ok r := by
  have hnumber : Json.ofBinary64 r.interval = .float r.interval := if_pos hinterval.isFinite
  obtain ⟨fields, hfields, hknown⟩ := metadata_known hinterval hport
  have hvalues : Json.Schema.assemble fields schema.fields = .ok [.string r.dbType,
      .string r.server, .string r.instanceName, .int r.port, .string r.user, .string r.password,
      .string r.database, .string r.table, .string r.columns, .string r.condition,
      .float r.interval] := by
    rw [← Json.object.inj hfields, hnumber]
    rfl
  rw [ofMetadata, hfields, Json.Schema.ofJson_object hknown, hvalues]
  rfl

/-- The fields of a reader's metadata, each read as itself. -/
def rereading (r : SqlReader) : Rereading :=
  [("dbtype", .string r.dbType), ("server", .string r.server),
    ("instance", .string r.instanceName), ("port", .int r.port), ("dbuser", .string r.user),
    ("dbpass", .string r.password), ("database", .string r.database), ("table", .string r.table),
    ("columns", .string r.columns), ("where", .string r.condition),
    ("interval", .float r.interval)].map fun e : String × Json => (e.1, e.2, e.2)

/-- The metadata of a reader whose interval is read as itself is read as it is written. -/
theorem reads_metadata {r : SqlReader} (hinterval : r.interval.IsCanonical)
    (hport : r.port < 2 ^ 16) {depth : Nat}
    (hread : ReadAs depth (.float r.interval) (.float r.interval)) :
    ReadAs (depth + 1) r.metadata r.metadata := by
  have hnumber : Json.ofBinary64 r.interval = .float r.interval := if_pos hinterval.isFinite
  have hfields : r.metadata = .object (Rereading.written r.rereading) := by
    unfold metadata
    rw [hnumber]
    rfl
  have hsame : Rereading.written r.rereading = Rereading.read r.rereading := rfl
  have hobject : ReadAs (depth + 1) (.object (Rereading.written r.rereading))
      (.object (Rereading.read r.rereading)) := by
    refine Json.Read.reads_object ?_ (by simp [rereading])
    intro e he
    unfold rereading at he
    obtain ⟨e, hmem, rfl⟩ := List.mem_map.mp he
    simp only [List.mem_cons, List.not_mem_nil, or_false] at hmem
    rcases hmem with rfl | rfl | rfl | rfl | rfl | rfl | rfl | rfl | rfl | rfl | rfl
    iterate 3
      · exact Json.Read.reads_string depth _
    · exact Json.Read.reads_int depth (by omega) (by omega)
    iterate 6
      · exact Json.Read.reads_string depth _
    · exact hread
  rw [hfields]
  exact hobject

end SqlReader

/-! ## Readers of either kind -/

namespace FileReader

/-- Reading keeps a reader settled: the position is at most the number of records in the file. -/
theorem read_settled {r : FileReader} (h : r.Settled) {files : Files} (hfits : files.Fits) :
    (r.read files).1.Settled := by
  unfold read
  split
  · exact h
  · rename_i content hread
    have hlength := files.length_read hfits hread
    have hrecords := Csv.length_records content
    unfold readContent
    split
    · exact h
    · rename_i header data hcontent
      split
      · split <;> exact h
      · refine ⟨h.columns, h.interval, h.set, ?_⟩
        have hfresh : (data.drop r.position).length = data.length - r.position :=
          List.length_drop
        rw [hcontent, List.length_cons] at hrecords
        have hposition := h.position
        show r.position + (data.drop r.position).length < 2 ^ 64
        omega

end FileReader

namespace Reader

/-- A reader of a kind as preparing leaves it. -/
inductive Settled : ReaderKind → Reader → Prop where
  | file {r : FileReader} (h : r.Settled) : Settled .csv (.file r)
  | sql {r : SqlReader} (h : r.Settled) : Settled .sql (.sql r)

variable {kind : ReaderKind} {r : Reader}

/-- Every reader that was prepared is settled, whatever it was made from. -/
theorem ofMetadata_settled {v : Json} (hv : v.InRange) (h : ofMetadata kind v = .ok r)
    (access : ShareAccess) : Settled kind (r.prepare access).1 := by
  unfold ofMetadata at h
  cases kind with
  | csv =>
    cases hreader : FileReader.ofMetadata v with
    | error cause => rw [hreader] at h; cases h
    | ok reader =>
      rw [hreader] at h
      obtain rfl : Reader.file reader = r := Except.ok.inj h
      exact .file (FileReader.prepare_settled access (FileReader.ofMetadata_ranges hv hreader))
  | sql =>
    cases hreader : SqlReader.ofMetadata v with
    | error cause => rw [hreader] at h; cases h
    | ok reader =>
      rw [hreader] at h
      obtain rfl : Reader.sql reader = r := Except.ok.inj h
      exact .sql (SqlReader.prepare_settled (SqlReader.ofMetadata_ranges hv hreader))

/-- A settled reader is made and prepared from its metadata. -/
theorem ofMetadata_metadata (h : Settled kind r) (access : ShareAccess) :
    ∃ r', ofMetadata kind r.metadata = .ok r' ∧ (r'.prepare access).1 = r := by
  cases h with
  | file h =>
    rename_i r
    refine ⟨.file r.unprepared, ?_, congrArg Reader.file (FileReader.prepare_unprepared h access)⟩
    simp only [ofMetadata, metadata]
    rw [FileReader.ofMetadata_metadata h.interval h.position]
    rfl
  | sql h =>
    rename_i r
    refine ⟨.sql r, ?_, congrArg Reader.sql (SqlReader.prepare_of_settled h)⟩
    simp only [ofMetadata, metadata]
    rw [SqlReader.ofMetadata_metadata h.interval h.port]
    rfl

/-- The metadata of a settled reader is read as it is written, if its interval is. -/
theorem reads_metadata (h : Settled kind r) (hexact : Json.Exact r.interval) (depth : Nat) :
    ReadAs (depth + 1) r.metadata r.metadata := by
  cases h with
  | file h =>
    exact FileReader.reads_metadata h.interval h.position h.interval
      (Json.Read.reads_exact h.interval hexact depth)
  | sql h =>
    exact SqlReader.reads_metadata h.interval h.port
      (Json.Read.reads_exact h.interval hexact depth)

/-- Reading keeps a reader settled. -/
theorem read_settled (h : Settled kind r) {s : Surroundings} (hfits : s.files.Fits) :
    Settled kind (r.read s).1 := by
  cases h with
  | file h => exact .file (FileReader.read_settled h hfits)
  | sql h => exact .sql h

end Reader

end TableFeed
