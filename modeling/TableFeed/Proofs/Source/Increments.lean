import TableFeed.Proofs.Source.Settled

/-!
# A file that grows is read once

A reader has no place in its file but the number of records that it has given, and it reads the file
from the front each time. A `Tail` is such a file with its reader. A `Tail.Move` adds records to the
file, reads it (or fails to, while it is missing), or makes the reader anew from the text of its
metadata. A run is any list of moves; moves that are not possible change nothing.

The records of the file are a header, those that were given (`done`) and those that were not
(`rest`), and `Tail.Follows` ties everything else to that split.

* **`take_cases`** — everything that a reading can do.
* **`follows_append`**, **`follows_take`**, **`follows_restart`** — what each move makes of the split.
* **`follows_run`** — every run keeps to one.
* **`every_row_given_once`** — so the batches of a run are, put together, the rows that the file held
  when it was last read.
-/

namespace TableFeed

/-! ## Rows by their places -/

namespace FileReader

/-- The rows of the records behind the header of a file, each with the number of its place. -/
def dataRows (r : FileReader) (content : List UInt8) : List Row :=
  match Csv.records content with
  | [] => []
  | header :: data => data.mapIdx fun i record => row (r.headers header) (i + 1) record

theorem rows_eq_mapIdx (headers : List (Option String)) (position : Nat) (l : List Csv.Record) :
    rows headers position l = l.mapIdx fun i record => row headers (position + i + 1) record := by
  induction l generalizing position with
  | nil => rfl
  | cons record rest ih =>
    have hplace : ∀ i, position + 1 + i + 1 = position + (i + 1) + 1 := fun i => by omega
    simp only [rows, ih, List.mapIdx_cons, hplace, Nat.add_zero]

/-- Rows go on behind others with the numbers behind theirs. -/
theorem rows_append (headers : List (Option String)) (l more : List Csv.Record) :
    rows headers 0 l ++ rows headers l.length more = rows headers 0 (l ++ more) := by
  simp only [rows_eq_mapIdx, List.mapIdx_append, Nat.zero_add, Nat.add_comm l.length]

/-- The columns of a header are those of any reader that keeps the same ones. -/
theorem headers_congr {r r' : FileReader} (h : r.columns = r'.columns) (header : Csv.Record) :
    r.headers header = r'.headers header := by
  unfold headers keeps
  rw [h]

/-- Behind the records that were given, a reading gives the rest. It fails if there are no records
behind the header at all. -/
theorem readContent_rest {r : FileReader} {content : List UInt8} {header : Csv.Record}
    {done rest : List Csv.Record} (hrecords : Csv.records content = header :: (done ++ rest))
    (hposition : r.position = done.length) :
    (done ++ rest = [] ∧ r.readContent content = (r, .error (.emptySource r.fileName))) ∨
      r.readContent content = ({ r with position := (done ++ rest).length },
        .ok (rows (r.headers header) done.length rest)) := by
  have hdrop : (done ++ rest).drop r.position = rest := by
    rw [hposition]
    exact List.drop_left
  unfold readContent
  rw [hrecords]
  dsimp only
  rw [hdrop]
  cases rest with
  | nil =>
    dsimp only
    rw [List.append_nil, ← hposition]
    split
    · rename_i hfirst
      exact .inl ⟨List.eq_nil_of_length_eq_zero (hposition ▸ hfirst), rfl⟩
    · exact .inr rfl
  | cons record rest =>
    rw [List.length_append, ← hposition]
    exact .inr rfl

/-- What is added to a file of complete records leaves the rows that are there. -/
theorem dataRows_prefix (r : FileReader) {content : List UInt8} (h : Csv.Complete content)
    (more : List UInt8) : r.dataRows content <+: r.dataRows (content ++ more) := by
  obtain ⟨l, hl⟩ := Csv.records_prefix h more
  unfold dataRows
  rw [← hl]
  cases Csv.records content with
  | nil => exact List.nil_prefix
  | cons header data =>
    show data.mapIdx _ <+: (data ++ l).mapIdx _
    rw [List.mapIdx_append]
    exact List.prefix_append _ _

/-- A reader that has given so many rows of a file gives all others, or it fails, which it does only if
there are no rows at all. -/
theorem readContent_data {r : FileReader} {content : List UInt8} {k : Nat}
    (hk : k ≤ (r.dataRows content).length) :
    (r.dataRows content = [] ∧
      ∃ e, ({ r with position := k } : FileReader).readContent content =
        ({ r with position := k }, .error e)) ∨
      ({ r with position := k } : FileReader).readContent content =
        ({ r with position := (r.dataRows content).length }, .ok ((r.dataRows content).drop k)) := by
  cases hrecords : Csv.records content with
  | nil =>
    refine .inl ⟨by rw [dataRows, hrecords], .emptySource r.fileName, ?_⟩
    rw [readContent, hrecords]
  | cons header data =>
    have hdata : r.dataRows content = rows (r.headers header) 0 data := by
      rw [dataRows, hrecords, rows_eq_mapIdx]
      simp only [Nat.zero_add]
    have hlength : (r.dataRows content).length = data.length := by
      rw [dataRows, hrecords, List.length_mapIdx]
    have htake : (data.take k).length = k := by
      rw [List.length_take, ← hlength, Nat.min_eq_left hk]
    have hsplit : data = data.take k ++ data.drop k := (List.take_append_drop k data).symm
    rcases readContent_rest (r := { r with position := k }) (hrecords.trans (by rw [← hsplit]))
      htake.symm with ⟨hnone, herror⟩ | hrest
    · rw [← hsplit] at hnone
      refine .inl ⟨?_, _, herror⟩
      rw [hdata, hnone]
      rfl
    · refine .inr (hrest.trans ?_)
      -- the rows behind the first are those of the records behind the first
      have hdrop : (r.dataRows content).drop k = rows (r.headers header) k (data.drop k) := by
        have happend := rows_append (r.headers header) (data.take k) (data.drop k)
        rw [← hsplit, ← hdata, htake] at happend
        have hfirst : (rows (r.headers header) 0 (data.take k)).length = k := by
          rw [rows_eq_mapIdx, List.length_mapIdx, htake]
        rw [← happend]
        exact List.drop_left' hfirst
      rw [← hsplit, htake, hlength, hdrop]
      rfl

/-- A settled reader is made anew from the text of its metadata. Its interval may be read as another
number, and nothing else changes. -/
theorem parse_metadata {r : FileReader} (h : r.Settled) (access : ShareAccess) :
    ∃ reader : FileReader, Reader.parse .csv r.metadata.render = .ok (.file reader) ∧
      (reader.prepare access).1.Settled ∧
      (reader.prepare access).1 = { r with interval := (reader.prepare access).1.interval } := by
  obtain ⟨y, hy, hread⟩ := Json.Read.reads_finite h.interval
  have htext : Json.parse r.metadata.render = .ok { r with interval := y }.metadata :=
    Json.Read.parse_render (reads_metadata h.interval h.position hy (hread _))
  have hmake := ofMetadata_metadata (r := { r with interval := y }) hy h.position
  refine ⟨({ r with interval := y } : FileReader).unprepared, ?_,
    prepare_settled access ⟨hy, h.position⟩, ?_⟩
  · unfold Reader.parse Reader.ofMetadata
    rw [htext]
    simp only [Except.mapError, bind, Except.bind, hmake]
    rfl
  · rw [prepare_eq, unprepared, ← h.columns]

end FileReader

/-! ## Runs -/

/-- A file that grows and its reader, with what has come of reading it. -/
structure Tail where
  path : String
  /-- What the file holds whenever it is there. -/
  content : List UInt8
  reader : Reader
  /-- The rows of all batches, first to last. -/
  given : List Row := []
  /-- What the file held when it was last read without a failure. -/
  seen : Option (List UInt8) := none

/-- Something that happens to a file that grows or to its reader. -/
inductive Tail.Move where
  /-- Something is added to the file. -/
  | append (more : List UInt8)
  /-- The reader takes a batch. -/
  | read (s : Surroundings)
  /-- The metadata is kept as a text, and another reader is made from that. -/
  | restart (access : ShareAccess)

namespace Tail

/-- A file with a reader that has just been prepared. -/
def start (r : FileReader) (access : ShareAccess) (content : List UInt8) : Tail where
  path := r.fileName
  content := content
  reader := ((Reader.file r).prepare access).1

/-- What is found at the path is what the file holds, or it cannot be read. -/
def Finds (t : Tail) (s : Surroundings) : Prop :=
  s.files.Fits ∧ ∀ content ∈ (s.files.read t.path).toOption, content = t.content

instance (t : Tail) (s : Surroundings) : Decidable (t.Finds s) :=
  inferInstanceAs (Decidable (_ ∧ _))

/-- The reader takes a batch, or fails to. -/
def take (t : Tail) (s : Surroundings) : Tail :=
  match t.reader.read s with
  | (reader, _, .ok rows) =>
    { t with reader, given := t.given ++ rows, seen := some t.content }
  | (reader, _, .error _) => { t with reader }

theorem take_reader (t : Tail) (s : Surroundings) : (t.take s).reader = (t.reader.read s).1 := by
  unfold take
  generalize t.reader.read s = reading
  obtain ⟨reader, log, cause | rows⟩ := reading <;> rfl

/-- What a move makes of a file and its reader. -/
def step (t : Tail) : Tail.Move → Except Error Tail
  | .append more =>
    .ok (if Csv.EndsRecord .start more then { t with content := t.content ++ more } else t)
  | .read s => .ok (if t.Finds s then t.take s else t)
  | .restart access => do
    let reader ← Reader.parse .csv t.reader.metadata.render
    return { t with reader := (reader.prepare access).1 }

/-- What a list of moves makes of them. -/
def run (moves : List Tail.Move) (t : Tail) : Except Error Tail :=
  moves.foldlM step t

/-! ## What a run keeps to -/

/-- A file of a header, the records that were given, and the rest of them. Its reader is one that
`first` became. -/
structure Follows (first reader : FileReader) (header : Csv.Record) (done rest : List Csv.Record)
    (t : Tail) : Prop where
  file : t.reader = .file reader
  settled : reader.Settled
  path : reader.fileName = t.path
  columns : reader.columns = first.columns
  complete : Csv.Complete t.content
  records : Csv.records t.content = header :: (done ++ rest)
  position : reader.position = done.length
  given : t.given = FileReader.rows (first.headers header) 0 done
  seen : (t.seen.map Csv.records).getD [header] = header :: done

variable {first reader : FileReader} {header : Csv.Record} {done rest : List Csv.Record} {t : Tail}

theorem follows_start {r : FileReader} (access : ShareAccess) {content : List UInt8}
    (hinterval : r.interval.IsCanonical) (hposition : r.position = 0)
    (hcomplete : Csv.Complete content) (hrecords : Csv.records content = header :: rest) :
    Follows (r.prepare access).1 (r.prepare access).1 header [] rest (start r access content) := by
  have hsettled := FileReader.prepare_settled access ⟨hinterval, hposition ▸ Nat.two_pow_pos 64⟩
  refine ⟨rfl, hsettled, ?_, rfl, hcomplete, hrecords, ?_, rfl, rfl⟩
  · rw [FileReader.prepare_eq]
    rfl
  · rw [FileReader.prepare_eq]
    exact hposition

/-- What is added is behind all other records. -/
theorem follows_append (h : Follows first reader header done rest t) {more : List UInt8}
    (hmore : Csv.EndsRecord .start more) :
    ∃ new, Follows first reader header done (rest ++ new)
      { t with content := t.content ++ more } := by
  have hrecord : Csv.records t.content ≠ [] := by
    rw [h.records]
    exact List.cons_ne_nil _ _
  have hrecords := Csv.records_append h.complete hrecord more
  rw [h.records, List.cons_append, List.append_assoc] at hrecords
  exact ⟨_, { h with
    complete := Csv.complete_append h.complete hrecord hmore
    records := hrecords }⟩

/-- A reading that succeeds gives all of the rest, and one that fails changes nothing. It fails only
if the file cannot be read or has no records behind its header. -/
theorem take_cases (h : Follows first reader header done rest t) {s : Surroundings}
    (hfinds : t.Finds s) :
    (t.take s = t ∧ ((s.files.read t.path).toOption = none ∨ done ++ rest = [])) ∨
      t.take s = { t with
        reader := .file { reader with position := (done ++ rest).length }
        given := t.given ++ FileReader.rows (first.headers header) done.length rest
        seen := some t.content } := by
  have hself : { t with reader := .file reader } = t := by rw [← h.file]
  have hplace : s.files.read reader.fileName = s.files.read t.path := by rw [h.path]
  unfold take
  rw [h.file]
  simp only [Reader.read, FileReader.read, hplace]
  cases hcontent : s.files.read t.path with
  | error cause => exact .inl ⟨hself, .inl rfl⟩
  | ok content =>
    obtain rfl : content = t.content := hfinds.2 content (by rw [hcontent]; rfl)
    dsimp only
    rw [← FileReader.headers_congr h.columns]
    rcases FileReader.readContent_rest h.records h.position with ⟨hempty, hread⟩ | hread
    · rw [hread]
      exact .inl ⟨hself, .inr hempty⟩
    · rw [hread]
      exact .inr rfl

/-- A file that is there and has records behind its header is read without a failure. -/
theorem Follows.take_seen (h : Follows first reader header done rest t) {s : Surroundings}
    (hfinds : t.Finds s) (hthere : (s.files.read t.path).toOption = some t.content)
    (hdata : 1 < (Csv.records t.content).length) : (t.take s).seen = some t.content := by
  rcases take_cases h hfinds with ⟨-, hmissing | hempty⟩ | htake
  · rw [hmissing] at hthere
    cases hthere
  · rw [h.records, hempty] at hdata
    exact absurd hdata (lt_irrefl 1)
  · rw [htake]

theorem follows_take (h : Follows first reader header done rest t) {s : Surroundings}
    (hfinds : t.Finds s) :
    ∃ reader' done' rest', Follows first reader' header done' rest' (t.take s) := by
  have hsettled : (t.take s).reader.Settled .csv := by
    rw [take_reader, h.file]
    exact Reader.read_settled (.file h.settled) hfinds.1
  rcases take_cases h hfinds with ⟨htake, -⟩ | htake
  · rw [htake]
    exact ⟨reader, done, rest, h⟩
  · rw [htake] at hsettled ⊢
    cases hsettled with
    | file hreader =>
      refine ⟨_, done ++ rest, [], rfl, hreader, h.path, h.columns, h.complete, ?_, rfl, ?_,
        h.records⟩
      · rw [List.append_nil]
        exact h.records
      · show t.given ++ _ = _
        rw [h.given, FileReader.rows_append]

/-- Making the reader anew changes nothing about the records. -/
theorem follows_restart (h : Follows first reader header done rest t) (access : ShareAccess) :
    ∃ t' reader', t.step (.restart access) = .ok t' ∧
      Follows first reader' header done rest t' := by
  obtain ⟨made, hparse, hsettled, hprepared⟩ := FileReader.parse_metadata h.settled access
  have hstep : t.step (.restart access) =
      .ok { t with reader := .file (made.prepare access).1 } := by
    unfold step
    rw [h.file]
    show (Reader.parse .csv reader.metadata.render >>= _) = _
    rw [hparse]
    rfl
  refine ⟨_, (made.prepare access).1, hstep, { h with
    file := rfl
    settled := hsettled
    path := ?_
    columns := ?_
    position := ?_ }⟩
  · rw [hprepared]
    exact h.path
  · rw [hprepared]
    exact h.columns
  · rw [hprepared]
    exact h.position

/-- No move fails, and each leaves records that were given and others behind them. -/
theorem follows_step (h : Follows first reader header done rest t) (m : Tail.Move) :
    ∃ t' reader' done' rest', t.step m = .ok t' ∧
      Follows first reader' header done' rest' t' := by
  cases m with
  | append more =>
    by_cases hmore : Csv.EndsRecord .start more
    · obtain ⟨new, hnew⟩ := follows_append h hmore
      exact ⟨_, reader, done, rest ++ new, congrArg Except.ok (if_pos hmore), hnew⟩
    · exact ⟨t, reader, done, rest, congrArg Except.ok (if_neg hmore), h⟩
  | read s =>
    by_cases hfinds : t.Finds s
    · obtain ⟨reader', done', rest', htake⟩ := follows_take h hfinds
      exact ⟨_, reader', done', rest', congrArg Except.ok (if_pos hfinds), htake⟩
    · exact ⟨t, reader, done, rest, congrArg Except.ok (if_neg hfinds), h⟩
  | restart access =>
    obtain ⟨t', reader', hstep, hrestart⟩ := follows_restart h access
    exact ⟨t', reader', done, rest, hstep, hrestart⟩

theorem follows_run (moves : List Tail.Move) (h : Follows first reader header done rest t) :
    ∃ t' reader' done' rest', run moves t = .ok t' ∧
      Follows first reader' header done' rest' t' := by
  induction moves generalizing reader done rest t with
  | nil => exact ⟨t, reader, done, rest, rfl, h⟩
  | cons m moves ih =>
    obtain ⟨t', reader', done', rest', hstep, hfollows⟩ := follows_step h m
    have hrun : run (m :: moves) t = run moves t' := by
      unfold run
      rw [List.foldlM_cons, hstep]
      rfl
    rw [hrun]
    exact ih hfollows

/-- What was given are the rows that the file held when it was last read. -/
theorem Follows.given_eq (h : Follows first reader header done rest t) :
    t.given = t.seen.elim [] first.dataRows := by
  have hrows : t.given =
      done.mapIdx fun i record => FileReader.row (first.headers header) (i + 1) record := by
    rw [h.given, FileReader.rows_eq_mapIdx]
    simp only [Nat.zero_add]
  have hseen := h.seen
  cases hcontent : t.seen with
  | none =>
    rw [hcontent] at hseen
    obtain rfl : [] = done := (List.cons.inj hseen).2
    exact hrows
  | some content =>
    rw [hcontent] at hseen
    have hrecords : Csv.records content = header :: done := hseen
    rw [hrows, Option.elim, FileReader.dataRows, hrecords]

/-- The number of rows that were given is in the metadata. -/
theorem Follows.position_metadata (h : Follows first reader header done rest t) :
    ∃ fields, t.reader.metadata = .object fields ∧
      Json.field? "header_pos" fields = some (.int t.given.length) := by
  have hcount : t.given.length = reader.position := by
    rw [h.given, FileReader.rows_eq_mapIdx, List.length_mapIdx, h.position]
  rw [h.file, hcount]
  refine ⟨_, rfl, ?_⟩
  unfold FileReader.optionalField
  split <;> split <;> rfl

end Tail

/-- **Reading a file that grows.** A reader that has given nothing follows a file of complete records.
After any moves, what it has given are the rows behind the header that the file held when it was
last read without a failure, in their order and each once, and its metadata tells their number. The
next reading is such a one, if the file is there then and has records behind its header.

The interval of a reader that is made from metadata is canonical (`FileReader.ofMetadata_ranges`). -/
theorem every_row_given_once {r : FileReader} (hinterval : r.interval.IsCanonical)
    (hposition : r.position = 0) (access : ShareAccess) {content : List UInt8}
    (hcomplete : Csv.Complete content) (hheader : Csv.records content ≠ [])
    (moves : List Tail.Move) :
    ∃ t, Tail.run moves (Tail.start r access content) = .ok t ∧
      t.given = t.seen.elim [] (r.prepare access).1.dataRows ∧
      (∃ fields, t.reader.metadata = .object fields ∧
        Json.field? "header_pos" fields = some (.int t.given.length)) ∧
      ∀ s, t.Finds s → (s.files.read t.path).toOption = some t.content →
        1 < (Csv.records t.content).length → (t.take s).seen = some t.content := by
  obtain ⟨header, rest, hrecords⟩ := List.exists_cons_of_ne_nil hheader
  obtain ⟨t, reader, done, rest, hrun, hfollows⟩ := Tail.follows_run moves
    (Tail.follows_start access hinterval hposition hcomplete hrecords)
  exact ⟨t, hrun, hfollows.given_eq, hfollows.position_metadata,
    fun s hfinds hthere hdata => hfollows.take_seen hfinds hthere hdata⟩

/-- A file with a line end inside quotes, -/
def grown : List UInt8 :=
  Utf8.bytes "h,k\n1,\"a\nb\"\n"

/-- and what is added to it. -/
def growth : List UInt8 :=
  Utf8.bytes "2,c\r\n\n3,d\n"

/-- A reading, one that fails while there is more to read, and one by a reader made anew. -/
def interrupted : List Tail.Move :=
  [.read { files := ⟨[(["a.csv".toList], .file grown)]⟩ }, .append growth, .read {}, .restart {},
    .read { files := ⟨[(["a.csv".toList], .file (grown ++ growth))]⟩ }]

theorem every_row_given_once_interrupted :
    ∃ t, Tail.run interrupted (Tail.start { fileName := "a.csv" } {} grown) = .ok t ∧
      t.seen = some (grown ++ growth) ∧
      t.given = FileReader.dataRows { fileName := "a.csv" } (grown ++ growth) ∧
      t.given =
        [⟨[("mfx_id", some (.uint 1)), ("h", some (.int 1)), ("k", some (.text "a\nb"))]⟩,
          ⟨[("mfx_id", some (.uint 2)), ("h", some (.int 2)), ("k", some (.text "c"))]⟩,
          ⟨[("mfx_id", some (.uint 3)), ("h", some (.int 3)), ("k", some (.text "d"))]⟩] := by
  have hcomplete : Csv.Complete grown := by decide +kernel
  have hheader : Csv.records grown ≠ [] := by decide +kernel
  obtain ⟨t, hrun, hgiven, -⟩ := every_row_given_once (r := { fileName := "a.csv" })
    (Binary64.isCanonical_zero false) rfl {} hcomplete hheader interrupted
  have hseen : t.seen = some (grown ++ growth) := by
    have h : (Tail.run interrupted (Tail.start { fileName := "a.csv" } {} grown)).toOption.bind
        (·.seen) = some (grown ++ growth) := by decide +kernel
    rw [hrun] at h
    exact h
  rw [hseen] at hgiven
  refine ⟨t, hrun, hseen, hgiven, ?_⟩
  rw [hgiven]
  decide +kernel

end TableFeed
