import Mathlib.Data.List.Forall2
import TableFeed.Proofs.Source.Ordinals
import TableFeed.Proofs.Table.Csv

/-!
# One reading

What a single reading of a file gives, whatever the file holds and wherever the reader stands. The file
may be any bytes: they are records, of any lengths, and only a file that cannot be opened or has no row
to begin with is a failure.

A reading goes through the records one by one, as they are handed out: the header, the records it has
given already, and those it counts and gives. On the way a record could be refused or the count could
pass 64 bits; `readStream` stops there.

* **`readStream_content`** — it never stops there, and so it gives what `readContent` gives.
* **`RowOf`** — what is in a row: the columns of the header that are kept, as far as the record has
  fields, each once and where it stands first, with its last field.
* **`row_rowOf`** — the rows of records are like that.
* **`Ends`**, **`read_ends`** — all ways in which a reading ends.
-/

namespace TableFeed

namespace Csv

/-- A record that is not as long as the first one. -/
structure UnequalLengths where
  expected : Nat
  found : Nat
  deriving DecidableEq, Repr

/-- What is handed out for a content, one after the other. Unless lengths are flexible, a record that
is not as long as the first one is refused. -/
def results (flexible : Bool) (content : List UInt8) : List (Except UnequalLengths Record) :=
  match records content with
  | [] => []
  | first :: rest =>
    .ok first :: rest.map fun record =>
      if flexible || record.length == first.length then .ok record
      else .error ⟨first.length, record.length⟩

/-- Nothing is refused if lengths are flexible. -/
theorem results_flexible (content : List UInt8) :
    results true content = (records content).map .ok := by
  unfold results
  cases records content with
  | nil => rfl
  | cons first rest => simp only [Bool.true_or, if_true, List.map_cons]

end Csv

namespace FileReader

/-! ## Record by record -/

/-- Why a reading would stop on the way. -/
inductive Halt where
  | refused (cause : Csv.UnequalLengths)
  /-- The count of a record has more than 64 bits. -/
  | overflow
  deriving DecidableEq, Repr

/-- What is handed out behind so many records, none if there are fewer. -/
def skip : Nat → List (Except Csv.UnequalLengths Csv.Record) →
    Except Halt (Option (List (Except Csv.UnequalLengths Csv.Record)))
  | 0, rest => .ok (some rest)
  | _ + 1, [] => .ok none
  | _ + 1, .error cause :: _ => .error (.refused cause)
  | n + 1, .ok _ :: rest => skip n rest

/-- The rows of what is handed out, counted on from a position, and the last count. -/
def gather (columns : List (Option String)) : Nat → List (Except Csv.UnequalLengths Csv.Record) →
    Except Halt (List Row × Nat)
  | position, [] => .ok ([], position)
  | _, .error cause :: _ => .error (.refused cause)
  | position, .ok record :: rest =>
    if 2 ^ 64 ≤ position + 1 then .error .overflow
    else
      match gather columns (position + 1) rest with
      | .error halt => .error halt
      | .ok (rows, last) => .ok (row columns (position + 1) record :: rows, last)

/-- A reading, record by record. -/
def readStream (r : FileReader) : List (Except Csv.UnequalLengths Csv.Record) →
    Except Halt (FileReader × Except ReadError (List Row))
  | [] => .ok (r, .error (.emptySource r.fileName))
  | .error cause :: _ => .error (.refused cause)
  | .ok header :: rest =>
    match skip r.position rest with
    | .error halt => .error halt
    | .ok none => .ok (r, .ok [])
    | .ok (some fresh) =>
      match gather (r.headers header) r.position fresh with
      | .error halt => .error halt
      | .ok (rows, position) =>
        if rows = [] ∧ r.position = 0 then .ok (r, .error (.emptySource r.fileName))
        else .ok ({ r with position }, .ok rows)

theorem skip_ok (n : Nat) (l : List Csv.Record) :
    skip n (l.map .ok) = .ok (if n ≤ l.length then some ((l.drop n).map .ok) else none) := by
  induction n generalizing l with
  | zero => rfl
  | succ n ih =>
    cases l with
    | nil => rfl
    | cons record rest =>
      rw [List.map_cons, skip, ih, List.length_cons, List.drop_succ_cons]
      simp only [Nat.add_le_add_iff_right]

/-- The counts stay below the position and the records that are left. -/
theorem gather_ok (columns : List (Option String)) (position : Nat) (l : List Csv.Record)
    (hfits : position + l.length < 2 ^ 64) :
    gather columns position (l.map .ok) = .ok (rows columns position l, position + l.length) := by
  induction l generalizing position with
  | nil => rfl
  | cons record rest ih =>
    rw [List.length_cons] at hfits
    have hnext : ¬ 2 ^ 64 ≤ position + 1 := by omega
    rw [List.map_cons, gather, if_neg hnext, ih (position + 1) (by omega)]
    simp only [rows, List.length_cons, Nat.add_assoc, Nat.add_comm 1]

/-- A reading never stops on the way: nothing is refused, and no count is greater than the content is
long. -/
theorem readStream_content {r : FileReader} {content : List UInt8}
    (hfits : content.length < 2 ^ 64) :
    r.readStream (Csv.results true content) = .ok (r.readContent content) := by
  have hrecords := Csv.length_records content
  rw [Csv.results_flexible]
  unfold readContent
  cases hcontent : Csv.records content with
  | nil => rfl
  | cons header data =>
    rw [hcontent, List.length_cons] at hrecords
    rw [List.map_cons, readStream, skip_ok]
    by_cases hshort : r.position ≤ data.length
    · have hlength : (data.drop r.position).length = data.length - r.position := List.length_drop
      simp only [if_pos hshort]
      rw [gather_ok _ _ _ (by omega)]
      cases data.drop r.position with
      | nil => simp only [rows, true_and]; split <;> rfl
      | cons record rest => simp [rows]
    · -- the file has shrunk below the position
      have hnone : data.drop r.position = [] := List.drop_eq_nil_of_le (by omega)
      have hpositive : r.position ≠ 0 := by omega
      simp only [if_neg hshort, hnone, if_neg hpositive]

/-! ## What a row holds -/

/-- The header has a name for the field at a place, and the column of that name is kept. -/
def Names (r : FileReader) (header : Csv.Record) (i : Nat) (name : String) : Prop :=
  ∃ field, header[i]? = some field ∧ Utf8.decodeLossy field = name ∧ r.keeps name = true

/-- The names of the columns that are kept, as far as a record has fields. -/
def keptNames (r : FileReader) (header record : Csv.Record) : List String :=
  ((header.take record.length).map Utf8.decodeLossy).filter r.keeps

/-- A row holds the fields of a record, behind the cell that identifies it. -/
structure RowOf (r : FileReader) (header record : Csv.Record) (row : Row) : Prop where
  /-- There is one column for each name, where it stands first. -/
  names : row.names =
    identityColumn :: ((r.keptNames header record).filter (· ≠ identityColumn)).eraseDups
  /-- A column holds the last field of its name. -/
  value : ∀ i field name, record[i]? = some field → r.Names header i name →
    name ≠ identityColumn →
    (∀ j < record.length, i < j → ¬ r.Names header j name) →
    row.get? name = some (some (Cell.infer (Utf8.decodeLossy field)))

variable {r : FileReader} {header record : Csv.Record}

theorem headers_eq_some {i : Nat} {name : String} :
    (r.headers header)[i]? = some (some name) ↔ r.Names header i name := by
  unfold headers Names
  rw [List.getElem?_map, Option.map_eq_some_iff]
  refine exists_congr fun field => and_congr_right fun _ => ?_
  constructor
  · intro h
    by_cases hkeeps : r.keeps (Utf8.decodeLossy field) = true
    · rw [if_pos hkeeps] at h
      rw [← Option.some.inj h]
      exact ⟨rfl, hkeeps⟩
    · rw [if_neg hkeeps] at h
      cases h
  · rintro ⟨rfl, hkeeps⟩
    exact if_pos hkeeps

/-- The fields with a column bear the kept names in their order. -/
theorem values_names (r : FileReader) (header record : Csv.Record) :
    (Given.mk (r.headers header) record).values.map (·.1) = r.keptNames header record := by
  unfold Given.values keptNames headers
  induction header generalizing record with
  | nil => simp
  | cons name header ih =>
    cases record with
    | nil => simp
    | cons field record =>
      have ih := ih record
      dsimp only at ih ⊢
      rw [List.map_cons, List.zip_cons_cons, List.filterMap_cons, List.length_cons,
        List.take_succ_cons, List.map_cons, List.filter_cons]
      by_cases hkeeps : r.keeps (Utf8.decodeLossy name) = true
      · simp [hkeeps, ih]
      · simp [hkeeps, ih]

/-- The rows that a reader makes of records hold their fields. -/
theorem row_rowOf (r : FileReader) (header record : Csv.Record) (number : Nat) :
    r.RowOf header record (row (r.headers header) number record) := by
  have hrow := Given.row_eq_withValues ⟨r.headers header, record⟩ number
  dsimp only at hrow
  rw [hrow]
  refine ⟨?_, fun i field name hfield hname hother hlast => ?_⟩
  · have hstart : (Row.insert {} identityColumn (some (.uint number))).names = [identityColumn] := rfl
    rw [Row.names_withValues, values_names, hstart, List.removeAll_cons, List.removeAll_nil]
    refine congrArg (fun names => identityColumn :: names.eraseDups) (List.filter_congr fun name _ => ?_)
    rw [Bool.eq_iff_iff]
    simp
  · rw [Row.get?_withValues]
    have hcolumn := headers_eq_some.mpr hname
    have hat : (record.zip (r.headers header))[i]? = some (field, some name) :=
      List.getElem?_zip_eq_some.mpr ⟨hfield, hcolumn⟩
    -- no field behind this one has the name
    have hbehind : ∀ p ∈ ((record.zip (r.headers header)).drop (i + 1)).filterMap fun p =>
        p.2.map fun name => (name, Cell.infer (Utf8.decodeLossy p.1)), p.1 ≠ name := by
      rintro p hp rfl
      obtain ⟨⟨other, column⟩, hmem, hp⟩ := List.mem_filterMap.mp hp
      obtain ⟨same, rfl, rfl⟩ := Option.map_eq_some_iff.mp hp
      obtain ⟨k, hk⟩ := List.mem_iff_getElem?.mp hmem
      rw [List.getElem?_drop] at hk
      obtain ⟨hthere, hsame⟩ := List.getElem?_zip_eq_some.mp hk
      have hlt := (List.getElem?_eq_some_iff.mp hthere).1
      exact hlast (i + 1 + k) hlt (by omega) (headers_eq_some.mp hsame)
    have hsplit : (Given.mk (r.headers header) record).values =
        ((record.zip (r.headers header)).take i).filterMap (fun p =>
          p.2.map fun name => (name, Cell.infer (Utf8.decodeLossy p.1))) ++
        (name, Cell.infer (Utf8.decodeLossy field)) ::
        ((record.zip (r.headers header)).drop (i + 1)).filterMap fun p =>
          p.2.map fun name => (name, Cell.infer (Utf8.decodeLossy p.1)) := by
      have hparts := List.take_append_drop i (record.zip (r.headers header))
      rw [List.drop_eq_getElem?_toList_append, hat] at hparts
      unfold Given.values
      dsimp only
      conv => lhs; rw [← hparts]
      rw [List.filterMap_append]
      rfl
    rw [hsplit, lookup_reverse_last hbehind]
    rfl

/-! ## How a reading ends -/

theorem rows_rowOf (r : FileReader) (header : Csv.Record) (position : Nat) (l : List Csv.Record) :
    List.Forall₂ (r.RowOf header) l (rows (r.headers header) position l) := by
  induction l generalizing position with
  | nil => exact .nil
  | cons record rest ih => exact .cons (row_rowOf r header record (position + 1)) (ih (position + 1))

/-- How a reading ends. A failure leaves the reader as it is. Otherwise it gives a row for each record
behind those given before, in their order, and stands behind all records, or where it was if there are
fewer. -/
inductive Ends (r : FileReader) (files : Files) :
    FileReader × Except ReadError (List Row) → Prop
  | unopened {cause} (hfile : files.read r.fileName = .error cause) :
    Ends r files (r, .error (.fileOpen r.fileName cause))
  | headerless {content} (hfile : files.read r.fileName = .ok content)
    (hrecords : Csv.records content = []) : Ends r files (r, .error (.emptySource r.fileName))
  | dataless {content header} (hfile : files.read r.fileName = .ok content)
    (hrecords : Csv.records content = [header]) (hfirst : r.position = 0) :
    Ends r files (r, .error (.emptySource r.fileName))
  | batch {content header data rows} (hfile : files.read r.fileName = .ok content)
    (hrecords : Csv.records content = header :: data) (hsome : data ≠ [] ∨ 0 < r.position)
    (hrows : List.Forall₂ (r.RowOf header) (data.drop r.position) rows)
    (hfits : max r.position data.length < 2 ^ 64) :
    Ends r files ({ r with position := max r.position data.length }, .ok rows)

theorem readContent_ends {r : FileReader} {files : Files} {content : List UInt8}
    (hfile : files.read r.fileName = .ok content) (hr : r.position < 2 ^ 64)
    (hfits : content.length < 2 ^ 64) : r.Ends files (r.readContent content) := by
  have hrecords := Csv.length_records content
  unfold readContent
  cases hcontent : Csv.records content with
  | nil => exact .headerless hfile hcontent
  | cons header data =>
    rw [hcontent, List.length_cons] at hrecords
    have hmax : max r.position data.length < 2 ^ 64 := max_lt hr (by omega)
    dsimp only
    cases hfresh : data.drop r.position with
    | nil =>
      have hlength : data.length ≤ r.position := List.drop_eq_nil_iff.mp hfresh
      dsimp only
      split
      · rename_i hfirst
        have hnone : data = [] := List.eq_nil_of_length_eq_zero (by omega)
        exact .dataless hfile (hnone ▸ hcontent) hfirst
      · -- all records have been given before
        rename_i hlater
        have hend := Ends.batch hfile hcontent (.inr (Nat.pos_of_ne_zero hlater))
          (hfresh ▸ List.Forall₂.nil : List.Forall₂ (r.RowOf header) _ []) hmax
        rwa [max_eq_left hlength] at hend
    | cons record rest =>
      have hlength : (data.drop r.position).length = data.length - r.position := List.length_drop
      rw [hfresh, List.length_cons] at hlength
      have hsome : data ≠ [] := List.ne_nil_of_length_pos (by omega)
      have hend := Ends.batch hfile hcontent (.inl hsome) (rows_rowOf r header r.position _) hmax
      have hposition : r.position + (rest.length + 1) = max r.position data.length := by omega
      rw [hfresh] at hend
      dsimp only
      rw [List.length_cons, hposition]
      exact hend

/-- **One reading of any file.** It ends in one of four ways, and none of them is that a record is
refused or a count overflows. -/
theorem read_ends (r : FileReader) (files : Files) (hr : r.position < 2 ^ 64)
    (hfits : ∀ content, files.read r.fileName = .ok content → content.length < 2 ^ 64) :
    r.Ends files (r.read files) ∧
      ∀ content, files.read r.fileName = .ok content →
        r.readStream (Csv.results true content) = .ok (r.read files) := by
  unfold read
  cases hfile : files.read r.fileName with
  | error cause => exact ⟨.unopened hfile, fun content h => by cases h⟩
  | ok content =>
    have hfits := hfits content hfile
    refine ⟨readContent_ends hfile hr hfits, fun _ h => ?_⟩
    rw [← Except.ok.inj h]
    exact readStream_content hfits

/-- A file whose records have fewer fields than the header or more, with a name that occurs twice and a
byte that is no text. -/
def ragged : Files where
  nodes := [(["a.csv".toList],
    .file ("t,h,t,u\n1\n2,3,4,5,6\n\"7\",,\xff\n8".toList.map fun c => c.toNat.toUInt8))]

/-- A reader that has given one record of it. -/
def keepingTwo : FileReader where
  fileName := "a.csv"
  columns := ["u", "t"]
  position := 1

theorem read_ends_ragged :
    keepingTwo.Ends ragged (keepingTwo.read ragged) ∧
      (keepingTwo.read ragged).1 = { keepingTwo with position := 4 } ∧
      (keepingTwo.read ragged).2.toOption = some
        [⟨[("mfx_id", some (.uint 2)), ("t", some (.int 4)), ("u", some (.int 5))]⟩,
          ⟨[("mfx_id", some (.uint 3)), ("t", some (.text "\ufffd"))]⟩,
          ⟨[("mfx_id", some (.uint 4)), ("t", some (.int 8))]⟩] := by
  have hfits : ragged.Fits := by decide +kernel
  have hends := read_ends keepingTwo ragged (by decide) fun content hread =>
    (Files.length_read hfits hread).trans (by decide)
  exact ⟨hends.1, by decide +kernel, by decide +kernel⟩

end FileReader

end TableFeed
