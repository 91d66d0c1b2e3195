import TableFeed.Json.Schema
import TableFeed.Proofs.Json.Ranges

/-!
# What a record is read as

The values of a record are of the kinds of its fields, however the record was given: as an object or
as an array, as a value or as a text, with defaults or without.

* **`check_holds`** — a value that a kind accepts is of the kind.
* **`ofJson_holds`**, **`parse_holds`** — the crux: the values of a record that was read, in the
  order of its fields.
-/

namespace TableFeed.Json

/-- A value of a kind, with its numbers in range. -/
def Kind.Holds : Kind → Json → Prop
  | .any, v => v.InRange
  | .text, v => ∃ s, v = .string s
  | .number, v => ∃ x : Binary64, x.IsCanonical ∧ v = .float x
  | .natural bits, v => ∃ n : Nat, n < 2 ^ bits ∧ v = .int n

theorem Kind.check_holds {kind : Kind} {v w : Json} (h : kind.check v = .ok w) (hv : v.InRange) :
    kind.Holds w := by
  unfold Kind.check at h
  split at h
  · rw [← Except.ok.inj h]
    exact hv
  · exact ⟨_, (Except.ok.inj h).symm⟩
  · cases hv with
    | float hx => exact ⟨_, hx, (Except.ok.inj h).symm⟩
  · rename_i i
    cases hv with
    | int hi =>
      have hmax : i.natAbs ≤ Read.maxSignificand := by
        show i.natAbs ≤ 18446744073709551615
        omega
      exact ⟨_, Read.ofInt_canonical hmax, (Except.ok.inj h).symm⟩
  · rename_i bits i
    split at h
    · rename_i hrange
      simp only [Nat.pow_eq] at hrange
      refine ⟨i.toNat, by omega, ?_⟩
      rw [← Except.ok.inj h, Int.toNat_of_nonneg hrange.1]
    · cases h
  · cases h

/-- A kind accepts the values of the kind as they are. -/
theorem Kind.check_of_holds {kind : Kind} {v : Json} (h : kind.Holds v) : kind.check v = .ok v := by
  cases kind with
  | any => rfl
  | text =>
    obtain ⟨s, rfl⟩ := h
    rfl
  | number =>
    obtain ⟨x, -, rfl⟩ := h
    rfl
  | natural bits =>
    obtain ⟨n, hn, rfl⟩ := h
    have hrange : (0 : Int) ≤ n ∧ (n : Int) < Nat.pow 2 bits := by
      simp only [Nat.pow_eq]
      exact ⟨Int.natCast_nonneg n, by exact_mod_cast hn⟩
    exact if_pos hrange

namespace Schema

/-- Fields of different names, with defaults of their kinds. -/
structure Proper (s : Schema) : Prop where
  names : (s.fields.map (·.name)).Nodup
  defaults : ∀ f ∈ s.fields, ∀ d, f.default = some d → f.kind.Holds d

/-- Values of the kinds of fields, in their order. -/
def Holds (fields : List Field) (values : List Json) : Prop :=
  List.Forall₂ (fun f v => f.kind.Holds v) fields values

/-- Values that were found under the names of fields, each of its kind. -/
def Known (s : Schema) (found : List (String × Json)) : Prop :=
  ∀ e ∈ found, ∃ f, s.field? e.1 = some f ∧ f.kind.Holds e.2

variable {s : Schema}

theorem Proper.field? (h : s.Proper) {f : Field} (hf : f ∈ s.fields) :
    s.field? f.name = some f := by
  obtain ⟨front, behind, hfields⟩ := List.append_of_mem hf
  have hnames := h.names
  rw [hfields, List.map_append, List.map_cons] at hnames
  have hfront : front.find? (·.name = f.name) = none := by
    refine List.find?_eq_none.mpr ?_
    intro g hg heq
    exact (List.nodup_append.mp hnames).2.2 g.name (List.mem_map_of_mem hg) f.name
      List.mem_cons_self (of_decide_eq_true heq)
  unfold Schema.field?
  rw [hfields, List.find?_append, hfront, List.find?_cons_of_pos (by simp)]
  rfl

/-- The fields of a record that were found, with the defaults of the others. -/
theorem assemble_holds (h : s.Proper) {found : List (String × Json)} (hfound : s.Known found)
    {fields : List Field} (hfields : ∀ f ∈ fields, f ∈ s.fields) {values : List Json}
    (hvalues : assemble found fields = .ok values) : Holds fields values := by
  induction fields generalizing values with
  | nil =>
    rw [← Except.ok.inj hvalues]
    exact .nil
  | cons f fields ih =>
    have hf := hfields f List.mem_cons_self
    rw [assemble] at hvalues
    split at hvalues
    · rename_i v hv
      obtain ⟨rest, hrest, rfl⟩ := ok_of_map hvalues
      refine .cons ?_ (ih (fun g hg => hfields g (List.mem_cons_of_mem f hg)) hrest)
      -- the value was found under the field's name, or it is the default
      cases hname : Json.field? f.name found with
      | none =>
        rw [hname] at hv
        exact h.defaults f hf v hv
      | some w =>
        rw [hname] at hv
        obtain rfl : w = v := Option.some.inj hv
        obtain ⟨e, he, heq⟩ := List.exists_of_findSome?_eq_some hname
        obtain ⟨n, u⟩ := e
        dsimp only at heq
        split at heq
        · rename_i hn
          obtain rfl : u = w := Option.some.inj heq
          obtain ⟨g, hg, hholds⟩ := hfound (n, u) he
          rw [hn, h.field? hf] at hg
          rwa [Option.some.inj hg]
        · cases heq
    · cases hvalues

/-! ## From a value -/

theorem checkFields_known {fields found : List (String × Json)}
    (hrange : ∀ e ∈ fields, InRange e.2) (h : s.checkFields fields = .ok found) :
    s.Known found := by
  induction fields generalizing found with
  | nil =>
    rw [← Except.ok.inj h]
    exact List.forall_mem_nil _
  | cons e fields ih =>
    obtain ⟨name, v⟩ := e
    have hrest := fun d hd => hrange d (List.mem_cons_of_mem (name, v) hd)
    rw [checkFields] at h
    split at h
    · exact ih hrest h
    · rename_i f hf
      obtain ⟨w, hw, h⟩ := ok_of_bind h
      obtain ⟨rest, hfound, h⟩ := ok_of_bind h
      rw [← Except.ok.inj h]
      intro e he
      rcases List.mem_cons.mp he with rfl | he
      · exact ⟨f, hf, Kind.check_holds hw (hrange (name, v) List.mem_cons_self)⟩
      · exact ih hrest hfound e he

theorem checkFields_of_known {fields : List (String × Json)} (h : s.Known fields) :
    s.checkFields fields = .ok fields := by
  induction fields with
  | nil => rfl
  | cons e fields ih =>
    obtain ⟨name, v⟩ := e
    obtain ⟨f, hf, hv⟩ := h (name, v) List.mem_cons_self
    rw [checkFields, hf]
    dsimp only
    rw [Kind.check_of_holds hv, ih fun d hd => h d (List.mem_cons_of_mem _ hd)]
    rfl

/-- The record of an object whose fields are known and of their kinds. -/
theorem ofJson_object {fields : List (String × Json)} (h : s.Known fields) :
    s.ofJson (.object fields) = assemble fields s.fields := by
  rw [ofJson, checkFields_of_known h]
  rfl

theorem checkItems_holds {index : Nat} {fields : List Field} {items values : List Json}
    (hdefaults : ∀ f ∈ fields, ∀ d, f.default = some d → f.kind.Holds d)
    (hrange : ∀ v ∈ items, InRange v) (h : s.checkItems index fields items = .ok values) :
    Holds fields values := by
  induction fields generalizing index items values with
  | nil =>
    rw [checkItems] at h
    rw [← Except.ok.inj h]
    exact .nil
  | cons f fields ih =>
    have hrest := fun g hg => hdefaults g (List.mem_cons_of_mem f hg)
    cases items with
    | nil =>
      rw [checkItems] at h
      split at h
      · rename_i d hd
        obtain ⟨rest, hvalues, rfl⟩ := ok_of_map h
        exact .cons (hdefaults f List.mem_cons_self d hd) (ih hrest hrange hvalues)
      · cases h
    | cons v items =>
      rw [checkItems] at h
      obtain ⟨w, hw, h⟩ := ok_of_bind h
      obtain ⟨rest, hvalues, h⟩ := ok_of_bind h
      rw [← Except.ok.inj h]
      exact .cons (Kind.check_holds hw (hrange v List.mem_cons_self))
        (ih hrest (fun u hu => hrange u (List.mem_cons_of_mem v hu)) hvalues)

/-- The values of a record that a value is. -/
theorem ofJson_holds (hs : s.Proper) {v : Json} (hv : v.InRange) {values : List Json}
    (h : s.ofJson v = .ok values) : Holds s.fields values := by
  unfold ofJson at h
  split at h
  · obtain ⟨found, hfound, h⟩ := ok_of_bind h
    cases hv with
    | object hrange =>
      exact assemble_holds hs (checkFields_known hrange hfound) (fun _ hf => hf) h
  · obtain ⟨items, hitems, h⟩ := ok_of_bind h
    cases hv with
    | array hrange =>
      split at h
      · cases h
      · rw [← Except.ok.inj h]
        exact checkItems_holds hs.defaults hrange hitems
  · cases h

/-! ## From a text -/

open Read

theorem wrongKind_ne {α : Type} (expected : String) (bs : List UInt8) (a : α) :
    wrongKind expected bs ≠ .ok a := by
  intro h
  unfold wrongKind at h
  dsimp only at h
  split at h
  · cases h
  · split at h
    · cases h
    · split at h
      · cases h
      · split at h
        · cases h
        · cases h

theorem readKind_holds {kind : Kind} {bs rest : List UInt8} {v : Json}
    (h : readKind kind bs = .ok (v, rest)) : kind.Holds v := by
  unfold readKind at h
  split at h
  · rename_i hany
    rw [hany]
    exact value_inRange _ h
  · split at h
    · cases h
    · split at h
      · rename_i htext
        split at h
        · obtain ⟨⟨s, more⟩, -, heq⟩ := ok_of_map h
          rw [htext]
          exact ⟨s, (Prod.mk.inj heq).1.symm⟩
        · exact absurd h (wrongKind_ne _ _ _)
      · split at h
        · split at h
          · cases h
          · rename_i u more hu
            split at h
            · rename_i w hw
              obtain ⟨rfl, -⟩ := Prod.mk.inj (Except.ok.inj h)
              exact Kind.check_holds hw (value_inRange 0 hu)
            · cases h
        · exact absurd h (wrongKind_ne _ _ _)

theorem failRecord_ne {α : Type} (cause : Cause) (close : UInt8) (bs : List UInt8) (a : α) :
    failRecord cause close bs ≠ .ok a := by
  intro h
  unfold failRecord at h
  split at h
  · cases h
  · split at h
    · cases h
    · split at h <;> cases h

theorem readFields_known (rounds : Nat) {first : Bool} {found found' : List (String × Json)}
    {bs rest : List UInt8} (hfound : s.Known found)
    (h : s.readFields rounds first found bs = .ok (found', rest)) : s.Known found' := by
  induction rounds generalizing first found bs with
  | zero => cases h
  | succ rounds ih =>
    rw [readFields] at h
    obtain ⟨next, -, h⟩ := ok_of_bind h
    split at h
    · obtain ⟨rfl, -⟩ := Prod.mk.inj (Except.ok.inj h)
      exact hfound
    · obtain ⟨⟨name, behind⟩, -, h⟩ := ok_of_bind h
      dsimp only at h
      split at h
      · obtain ⟨front, -, h⟩ := ok_of_bind h
        obtain ⟨more, -, h⟩ := ok_of_bind h
        exact ih hfound h
      · rename_i f hf
        split at h
        · exact absurd h (failRecord_ne _ _ _ _)
        · obtain ⟨front, -, h⟩ := ok_of_bind h
          obtain ⟨⟨v, more⟩, hv, h⟩ := ok_of_bind h
          refine ih ?_ h
          intro e he
          rcases List.mem_append.mp he with he | he
          · exact hfound e he
          · rw [List.mem_singleton.mp he]
            exact ⟨f, hf, readKind_holds hv⟩

theorem readItems_holds {index : Nat} {fields : List Field} {bs rest : List UInt8}
    {values : List Json} (hdefaults : ∀ f ∈ fields, ∀ d, f.default = some d → f.kind.Holds d)
    (h : s.readItems index fields bs = .ok (values, rest)) : Holds fields values := by
  induction fields generalizing index bs rest values with
  | nil =>
    rw [readItems] at h
    rw [← (Prod.mk.inj (Except.ok.inj h)).1]
    exact .nil
  | cons f fields ih =>
    have hrest := fun g hg => hdefaults g (List.mem_cons_of_mem f hg)
    rw [readItems] at h
    obtain ⟨next, -, h⟩ := ok_of_bind h
    split at h
    · obtain ⟨⟨v, more⟩, hv, h⟩ := ok_of_bind h
      obtain ⟨⟨values', more'⟩, hvalues, h⟩ := ok_of_bind h
      rw [← (Prod.mk.inj (Except.ok.inj h)).1]
      exact .cons (readKind_holds hv) (ih hrest hvalues)
    · split at h
      · rename_i d hd
        obtain ⟨⟨values', more'⟩, hvalues, h⟩ := ok_of_bind h
        rw [← (Prod.mk.inj (Except.ok.inj h)).1]
        exact .cons (hdefaults f List.mem_cons_self d hd) (ih hrest hvalues)
      · exact absurd h (failRecord_ne _ _ _ _)

theorem read_holds (hs : s.Proper) {bs rest : List UInt8} {values : List Json}
    (h : s.read bs = .ok (values, rest)) : Holds s.fields values := by
  unfold read at h
  split at h
  · cases h
  · split at h
    · obtain ⟨⟨items, more⟩, hitems, h⟩ := ok_of_bind h
      obtain ⟨behind, -, h⟩ := ok_of_bind h
      rw [← (Prod.mk.inj (Except.ok.inj h)).1]
      exact readItems_holds hs.defaults hitems
    · split at h
      · obtain ⟨⟨found, more⟩, hfound, h⟩ := ok_of_bind h
        dsimp only at h
        split at h
        · rename_i items hitems
          rw [← (Prod.mk.inj (Except.ok.inj h)).1]
          exact assemble_holds hs (readFields_known _ (List.forall_mem_nil _) hfound)
            (fun _ hf => hf) hitems
        · cases h
      · exact absurd h (wrongKind_ne _ _ _)

/-- The values of the record that a text is. -/
theorem parse_holds (hs : s.Proper) {text : String} {values : List Json}
    (h : s.parse text = .ok values) : Holds s.fields values := by
  unfold parse at h
  obtain ⟨⟨items, rest⟩, hread, hfinish⟩ := ok_of_bind (ok_of_mapError h)
  dsimp only at hfinish
  unfold finish at hfinish
  split at hfinish
  · rw [← Except.ok.inj hfinish]
    exact read_holds hs hread
  · cases hfinish

end Schema

end TableFeed.Json
