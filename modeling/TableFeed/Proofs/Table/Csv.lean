import TableFeed.Table.Csv

/-!
# Records of a text that grows

A file of records is read from its front each time. Where a text ends between two records
(`Complete`), what is added behind it has records of its own.

* **`length_records`** — there are no more records than bytes.
* **`records_append`** — the crux: the records of a text that ends between two records and of what is
  added to it. A byte order mark counts at the front only.
-/

namespace TableFeed.Csv

/-! ## How many records there are -/

/-- The records that are still to come are no more than the bytes, and one that has begun. -/
theorem length_recordsFrom (place : Place) (fields : Record) (field bs : List UInt8) :
    (recordsFrom place fields field bs).length ≤ bs.length + if place = .start then 0 else 1 := by
  fun_induction recordsFrom place fields field bs <;> simp_all <;> omega

theorem length_dropMark (bs : List UInt8) : (dropMark bs).length ≤ bs.length := by
  unfold dropMark
  split
  · simp only [List.length_cons]
    omega
  · exact Nat.le_refl _

theorem length_records (content : List UInt8) : (records content).length ≤ content.length := by
  unfold records
  rw [List.length_map]
  exact Nat.le_trans (length_recordsFrom .start [] [] _) (length_dropMark content)

/-! ## Where a text ends -/

/-- The place behind a byte. -/
def Place.after : Place → UInt8 → Place
  | .quoted, b => if b = mark then .quote else .quoted
  | .quote, b =>
    if b = mark then .quoted else if b = comma then .field else if isEnd b then .start else .plain
  | .plain, b => if b = comma then .field else if isEnd b then .start else .plain
  | .start, b =>
    if isEnd b then .start else if b = mark then .quoted else if b = comma then .field else .plain
  | .field, b =>
    if b = mark then .quoted else if b = comma then .field else if isEnd b then .start else .plain

/-- From a place, a text ends behind the end of a record. -/
def EndsRecord (place : Place) (bs : List UInt8) : Prop :=
  bs.foldl Place.after place = .start

instance (place : Place) (bs : List UInt8) : Decidable (EndsRecord place bs) :=
  inferInstanceAs (Decidable (_ = _))

theorem recordsFrom_start (fields : Record) (field bs : List UInt8) :
    recordsFrom .start fields field bs = recordsFrom .start [] [] bs := by
  cases bs <;> rfl

/-- What is added behind the end of a record has records of its own. -/
theorem recordsFrom_append {place : Place} {fields : Record} {field bs : List UInt8}
    (h : EndsRecord place bs) (more : List UInt8) :
    recordsFrom place fields field (bs ++ more) =
      recordsFrom place fields field bs ++ recordsFrom .start [] [] more := by
  fun_induction recordsFrom place fields field bs with
  | case1 fields field => exact recordsFrom_start fields field more
  | case2 place fields field hplace => exact absurd h hplace
  | _ => simp_all [recordsFrom, EndsRecord, Place.after]

/-- A text of complete records, a byte order mark in front of them or not. -/
def Complete (content : List UInt8) : Prop :=
  EndsRecord .start (dropMark content)

instance (content : List UInt8) : Decidable (Complete content) :=
  inferInstanceAs (Decidable (EndsRecord _ _))

variable {content more : List UInt8}

/-- Behind a text with a record in it no byte order mark begins that began in it. -/
theorem dropMark_append (h : Complete content) (hrecord : records content ≠ [])
    (more : List UInt8) : dropMark (content ++ more) = dropMark content ++ more := by
  have hplain : ∀ {bs : List UInt8}, (∀ rest, bs ≠ 0xEF :: 0xBB :: 0xBF :: rest) →
      dropMark bs = bs := by
    intro bs hno
    unfold dropMark
    split
    · rename_i rest
      exact absurd rfl (hno rest)
    · rfl
  by_cases hmark : ∃ rest, content = 0xEF :: 0xBB :: 0xBF :: rest
  · obtain ⟨rest, rfl⟩ := hmark
    rfl
  · have hno : ∀ rest, content ≠ 0xEF :: 0xBB :: 0xBF :: rest := not_exists.mp hmark
    rw [hplain hno, hplain]
    intro rest heq
    -- otherwise the text is a part of the mark, and that ends inside a record
    cases content with
    | nil => exact hrecord rfl
    | cons a tail =>
      obtain ⟨rfl, htail⟩ := List.cons.inj heq
      cases tail with
      | nil => exact absurd h (by decide)
      | cons b tail =>
        obtain ⟨rfl, hlast⟩ := List.cons.inj htail
        cases tail with
        | nil => exact absurd h (by decide)
        | cons c tail =>
          obtain ⟨rfl, -⟩ := List.cons.inj hlast
          exact hno tail rfl

/-- The records of complete records and of what is added to them. -/
theorem records_append (h : Complete content) (hrecord : records content ≠ [])
    (more : List UInt8) : records (content ++ more) =
      records content ++ (recordsFrom .start [] [] more).map fun r => r.map trim := by
  unfold records
  rw [dropMark_append h hrecord, recordsFrom_append h, List.map_append]

/-- What is added to complete records leaves those that are there. -/
theorem records_prefix (h : Complete content) (more : List UInt8) :
    records content <+: records (content ++ more) := by
  by_cases hrecord : records content = []
  · rw [hrecord]
    exact List.nil_prefix
  · rw [records_append h hrecord]
    exact List.prefix_append _ _

/-- Complete records stay complete when complete records are added. -/
theorem complete_append (h : Complete content) (hrecord : records content ≠ [])
    (hmore : EndsRecord .start more) : Complete (content ++ more) := by
  unfold Complete at h ⊢
  rw [dropMark_append h hrecord]
  unfold EndsRecord at h hmore ⊢
  rw [List.foldl_append, h, hmore]

end TableFeed.Csv
