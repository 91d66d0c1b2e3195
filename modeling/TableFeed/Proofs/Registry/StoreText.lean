import TableFeed.Proofs.Json.Kinds
import TableFeed.Proofs.Json.Line
import TableFeed.Proofs.Json.Records
import TableFeed.Proofs.Text.Cutting
import TableFeed.Registry.Basic

/-!
# The lines of the store

A store is written as one text and read line by line.

* **`lines_text`** — the crux: the lines that are read are those that were written, one for each
  thing. No text of a value has a line end in it or white space at an end.
* **`StoredFeed.parse_line`** — each of them is read as the thing it was written for.
-/

namespace TableFeed

/-! ## The text of a store -/

namespace Json

theorem renderFields_last (fields : List (String × Json)) :
    (renderFields fields).getLast? = some '\x7d' := by
  induction fields with
  | nil => rfl
  | cons f rest ih =>
    obtain ⟨n, v⟩ := f
    cases rest with
    | nil => rw [renderFields, List.getLast?_append]; rfl
    | cons g rest =>
      rw [renderFields, List.getLast?_append, List.getLast?_cons, ih]
      rfl

end Json

namespace Store

variable (f : StoredFeed) (l : List StoredFeed)

/-- The characters of a thing's line, its end aside. -/
def lineChars : List Char :=
  Json.renderChars f.toJson

theorem trim_lineChars : Blank.trimChars (lineChars f) = lineChars f := by
  have hobject : lineChars f = '\x7b' :: Json.renderFields [("id", .string f.id),
      ("channel_id", .string f.channel), ("metadata", f.metadata)] := by
    unfold lineChars StoredFeed.toJson
    rw [Json.renderChars]
  have hlast := Json.renderFields_last [("id", .string f.id), ("channel_id", .string f.channel),
    ("metadata", f.metadata)]
  apply Blank.trimBy_eq
  · intro c hc
    rw [hobject] at hc
    rw [← Option.some.inj hc]
    decide
  · intro c hc
    rw [hobject, List.getLast?_cons, hlast] at hc
    rw [← Option.some.inj hc]
    decide

theorem text_cons : (text (f :: l)).toList = lineChars f ++ '\n' :: (text l).toList := by
  have hrest : text (f :: l) = f.line ++ text l := by
    unfold text
    rw [List.map_cons, String.join_cons]
  rw [hrest, String.toList_append, StoredFeed.line, String.toList_append, Json.render,
    String.toList_ofList, List.append_assoc]
  rfl

/-- The pieces of a store's text: its lines, and nothing behind the last line end. -/
theorem every_text :
    Split.every (· = '\n') (text l).toList = l.map lineChars ++ [[]] := by
  induction l with
  | nil => rfl
  | cons f l ih =>
    have hline : ∀ c ∈ lineChars f, decide (c = '\n') = false := by
      intro c hc
      have hprint := Json.printable_render f.toJson c hc
      refine decide_eq_false ?_
      rintro rfl
      exact absurd hprint (by decide)
    rw [text_cons, Split.every_append _ hline (by decide), ih, List.map_cons, List.cons_append]

/-- Numbers in front of pieces make no difference to which of them are kept. -/
theorem map_numbered (all : List (List Char)) (start : Nat) :
    (((List.range' start all.length).zip all).filterMap fun (n, line) =>
      if line = [] then none else some (n, String.ofList line)).map (·.2) =
      (all.filter (· ≠ [])).map String.ofList := by
  induction all generalizing start with
  | nil => rfl
  | cons line all ih =>
    rw [List.length_cons, List.range'_succ, List.zip_cons_cons, List.filterMap_cons,
      List.filter_cons]
    by_cases hempty : line = []
    · simpa only [hempty, if_true, ne_eq, not_true, decide_false, Bool.false_eq_true, if_false]
        using ih (start + 1)
    · simpa only [hempty, if_false, ne_eq, not_false_eq_true, decide_true, if_true, List.map_cons,
        List.cons.injEq, true_and] using ih (start + 1)

/-- The lines of a store's text are those that were written. -/
theorem lines_text : (lines (text l)).map (·.2) = l.map fun f => f.toJson.render := by
  have htrim : (l.map lineChars).map Blank.trimChars = l.map lineChars := by
    rw [List.map_map]
    exact List.map_congr_left fun f _ => trim_lineChars f
  have hkeep : (l.map lineChars).filter (· ≠ []) = l.map lineChars := by
    refine List.filter_eq_self.mpr ?_
    intro cs hcs
    obtain ⟨f, -, rfl⟩ := List.mem_map.mp hcs
    simp [lineChars, StoredFeed.toJson, Json.renderChars]
  unfold lines
  dsimp only
  rw [every_text, List.map_append, htrim, map_numbered, List.filter_append, hkeep, List.map_append,
    List.map_map]
  exact List.append_nil _

end Store

/-! ## A line by itself -/

namespace StoredFeed

open Json.Read (ReadAs maxDepth Rereading)

theorem schema_proper : schema.Proper where
  names := by decide
  defaults := by
    intro f hf d hd
    simp only [schema, List.mem_cons, List.not_mem_nil, or_false] at hf
    rcases hf with rfl | rfl | rfl <;> cases hd

/-- The line of a thing is read as that thing, with what its metadata is read as. -/
theorem parse_line (f : StoredFeed) {metadata : Json}
    (h : ReadAs (maxDepth - 1) f.metadata metadata) :
    parse f.toJson.render = .ok { f with metadata } := by
  let l : Rereading := [("id", .string f.id, .string f.id),
    ("channel_id", .string f.channel, .string f.channel), ("metadata", f.metadata, metadata)]
  have hread : schema.ReadsFields l := by
    intro e he
    simp only [l, List.mem_cons, List.not_mem_nil, or_false] at he
    rcases he with rfl | rfl | rfl
    · exact ⟨_, rfl, Json.Schema.readsKind_text f.id⟩
    · exact ⟨_, rfl, Json.Schema.readsKind_text f.channel⟩
    · exact ⟨_, rfl, Json.Schema.readsKind_any h⟩
  have hnames : (l.map (·.1)).Nodup := by simp [l]
  have hvalues : schema.parse f.toJson.render =
      .ok [.string f.id, .string f.channel, metadata] :=
    Json.Schema.parse_object hread hnames rfl
  rw [parse, hvalues]
  rfl

/-- The metadata of a thing that a line keeps has its numbers in range. -/
theorem parse_inRange {line : String} {f : StoredFeed} (h : parse line = .ok f) :
    f.metadata.InRange := by
  unfold parse at h
  split at h
  · cases h
  · rename_i id channel metadata hvalues
    have hkinds := Json.Schema.parse_holds schema_proper hvalues
    rw [← Except.ok.inj h]
    rcases hkinds with _ | ⟨-, _ | ⟨-, _ | ⟨hmetadata, -⟩⟩⟩
    exact hmetadata
  · cases h

end StoredFeed

end TableFeed
