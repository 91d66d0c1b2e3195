import TableFeed.Proofs.Json.Float

/-!
# The numbers of a value that was read

A whole number that fits no 64 bits is read as a floating-point one, and a floating-point one beyond
the format is not read at all. So every number in a value that was read is in range, whatever the
text.

* **`number_inRange`** — the crux: each way in which a number is read ends in a number in range.
* **`parse_inRange`** — what follows for values, by the depth of their nesting.
-/

namespace TableFeed

/-! ## Results of steps -/

section

variable {ε α β : Type}

theorem ok_of_bind {x : Except ε α} {f : α → Except ε β} {b : β} (h : x >>= f = .ok b) :
    ∃ a, x = .ok a ∧ f a = .ok b := by
  cases x with
  | error e => cases h
  | ok a => exact ⟨a, rfl, h⟩

theorem ok_of_map {x : Except ε α} {f : α → β} {b : β} (h : x.map f = .ok b) :
    ∃ a, x = .ok a ∧ f a = b := by
  cases x with
  | error e => cases h
  | ok a => exact ⟨a, rfl, Except.ok.inj h⟩

theorem ok_of_mapError {δ : Type} {x : Except ε α} {f : ε → δ} {a : α}
    (h : x.mapError f = .ok a) : x = .ok a := by
  cases x with
  | error e => cases h
  | ok b => exact congrArg Except.ok (Except.ok.inj h)

theorem error_of_mapError {δ : Type} {x : Except ε α} {f : ε → δ} {d : δ}
    (h : x.mapError f = .error d) : ∃ e, x = .error e ∧ f e = d := by
  cases x with
  | error e => exact ⟨e, rfl, Except.error.inj h⟩
  | ok a => cases h

end

namespace Json

/-- Every number in a value is a whole one of 64 bits or a finite one. -/
inductive InRange : Json → Prop where
  | null : InRange .null
  | bool (b : Bool) : InRange (.bool b)
  | int {i : Int} (h : -(2 ^ 63 : Int) ≤ i ∧ i < 2 ^ 64) : InRange (.int i)
  | float {x : Binary64} (h : x.IsCanonical) : InRange (.float x)
  | string (s : String) : InRange (.string s)
  | array {items : List Json} (h : ∀ v ∈ items, InRange v) : InRange (.array items)
  | object {fields : List (String × Json)} (h : ∀ e ∈ fields, InRange e.2) :
    InRange (.object fields)

namespace Read

variable {negative : Bool} {n : Nat} {p : Int} {bs rest : List UInt8} {v : Json}

/-! ## Numbers -/

theorem appendDigits_le (ds : List UInt8) (hn : n ≤ maxSignificand) :
    (appendDigits n ds).1 ≤ maxSignificand := by
  induction ds generalizing n with
  | nil => exact hn
  | cons d ds ih =>
    rw [appendDigits]
    dsimp only
    split
    · rename_i hfits
      exact ih hfits
    · exact hn

theorem ofInt_canonical {i : Int} (h : i.natAbs ≤ maxSignificand) :
    (Binary64.ofInt i).IsCanonical := by
  have hsmall : ((i.natAbs : Nat) : ℚ) / (1 : Nat) < Binary64.limit := by
    have hmax : i.natAbs ≤ 18446744073709551615 := h
    have hrat : (i.natAbs : ℚ) ≤ 18446744073709551615 := by exact_mod_cast hmax
    rw [Nat.cast_one, div_one]
    calc (i.natAbs : ℚ) ≤ 10 ^ 20 := by linarith
      _ ≤ 10 ^ 308 := pow_le_pow_right₀ (by norm_num) (by norm_num)
      _ < Binary64.limit := lt_limit
  obtain ⟨m, e, heq, hc⟩ :=
    Binary64.ofRatio_finite (decide (i < 0)) i.natAbs Nat.one_pos hsmall
  exact ⟨_, m, e, heq, hc⟩

theorem wholeNumber_inRange (negative : Bool) (hn : n ≤ maxSignificand) :
    InRange (wholeNumber negative n) := by
  have hmax : n ≤ 18446744073709551615 := hn
  unfold wholeNumber
  simp only [Nat.pow_eq]
  split
  · exact .int (by omega)
  · split
    · exact .float (ofInt_canonical (by rwa [Int.natAbs_natCast])).neg
    · exact .int (by omega)

theorem scaled_inRange (hn : n ≤ maxSignificand) (h : scaled negative n p bs = .ok (v, rest)) :
    InRange v := by
  obtain ⟨x, rfl, hx⟩ := scaled_finite hn h
  exact .float hx

theorem exponentPart_inRange (hn : n ≤ maxSignificand)
    (h : exponentPart negative n p bs = .ok (v, rest)) : InRange v := by
  unfold exponentPart at h
  split at h
  split at h
  · cases h
  · split at h
    · split at h
      · exact scaled_inRange hn h
      · split at h
        · cases h
        · obtain ⟨rfl, -⟩ := Prod.mk.inj (Except.ok.inj h)
          exact .float (Binary64.isCanonical_zero negative)
    · cases h

theorem afterDigits_inRange (hn : n ≤ maxSignificand)
    (h : afterDigits negative n p bs = .ok (v, rest)) : InRange v := by
  unfold afterDigits at h
  split at h
  · split at h
    · exact exponentPart_inRange hn h
    · exact scaled_inRange hn h
  · exact scaled_inRange hn h

theorem fractionPart_inRange (hn : n ≤ maxSignificand)
    (h : fractionPart negative n p bs = .ok (v, rest)) : InRange v := by
  unfold fractionPart at h
  dsimp only at h
  split at h
  · cases h
  · cases h
  · exact afterDigits_inRange (appendDigits_le _ hn) h

/-- Every number that is read is in range. -/
theorem number_inRange (h : number negative bs = .ok (v, rest)) : InRange v := by
  have hsize : ∀ ds, (appendDigits 0 ds).1 ≤ maxSignificand :=
    fun ds => appendDigits_le ds (Nat.zero_le _)
  unfold number at h
  split at h
  · cases h
  · split at h
    · cases h
    · split at h
      · cases h
      · rename_i b bs _ _
        have hn := hsize ((b :: bs).takeWhile isDigit)
        generalize appendDigits 0 ((b :: bs).takeWhile isDigit) = digits at h hn
        obtain ⟨n, taken, dropped⟩ := digits
        dsimp only at h hn
        have hended : ∀ {more}, (if dropped = 0 then Except.ok (wholeNumber negative n, more)
            else scaled negative n dropped more) = .ok (v, rest) → InRange v := by
          intro more hended
          split at hended
          · obtain ⟨rfl, -⟩ := Prod.mk.inj (Except.ok.inj hended)
            exact wholeNumber_inRange negative hn
          · exact scaled_inRange hn hended
        split at h
        · exact hended h
        · split at h
          · exact fractionPart_inRange hn h
          · split at h
            · exact exponentPart_inRange hn h
            · exact hended h

/-! ## Values -/

/-- A reader of values that gives values in range only. -/
def Sound (read : List UInt8 → Reading Json) : Prop :=
  ∀ {bs v rest}, read bs = .ok (v, rest) → InRange v

variable {read : List UInt8 → Reading Json}

theorem items_inRange (hread : Sound read) (rounds : Nat) {first : Bool} {before items : List Json}
    (hbefore : ∀ v ∈ before, InRange v)
    (h : Read.items read rounds first before bs = .ok (items, rest)) :
    ∀ v ∈ items, InRange v := by
  induction rounds generalizing first before bs with
  | zero => cases h
  | succ rounds ih =>
    have hmore : ∀ {front more v}, read front = .ok (v, more) →
        Read.items read rounds false (before ++ [v]) more = .ok (items, rest) →
        ∀ w ∈ items, InRange w := by
      intro front more v hv hitems
      refine ih ?_ hitems
      intro w hw
      rcases List.mem_append.mp hw with hw | hw
      · exact hbefore w hw
      · rw [List.mem_singleton.mp hw]
        exact hread hv
    rw [Read.items] at h
    split at h
    · cases h
    · split at h
      · obtain ⟨rfl, -⟩ := Prod.mk.inj (Except.ok.inj h)
        exact hbefore
      · split at h
        · obtain ⟨⟨v, more⟩, hv, h⟩ := ok_of_bind h
          exact hmore hv h
        · split at h
          · split at h
            · cases h
            · split at h
              · cases h
              · obtain ⟨⟨v, more⟩, hv, h⟩ := ok_of_bind h
                exact hmore hv h
          · cases h

theorem mem_put {name : String} {fields : List (String × Json)} {e : String × Json}
    (h : e ∈ put name v fields) : e.2 = v ∨ e ∈ fields := by
  induction fields with
  | nil =>
    rw [List.mem_singleton.mp h]
    exact Or.inl rfl
  | cons f fields ih =>
    obtain ⟨k, u⟩ := f
    rw [put] at h
    split at h
    · rcases List.mem_cons.mp h with rfl | h
      · exact Or.inl rfl
      · exact Or.inr (List.mem_cons_of_mem _ h)
    · rcases List.mem_cons.mp h with rfl | h
      · exact Or.inr List.mem_cons_self
      · exact (ih h).imp_right (List.mem_cons_of_mem _)

theorem fields_inRange (hread : Sound read) (rounds : Nat) {first : Bool}
    {before fields : List (String × Json)} (hbefore : ∀ e ∈ before, InRange e.2)
    (h : Read.fields read rounds first before bs = .ok (fields, rest)) :
    ∀ e ∈ fields, InRange e.2 := by
  induction rounds generalizing first before bs with
  | zero => cases h
  | succ rounds ih =>
    rw [Read.fields] at h
    obtain ⟨next, -, h⟩ := ok_of_bind h
    split at h
    · obtain ⟨rfl, -⟩ := Prod.mk.inj (Except.ok.inj h)
      exact hbefore
    · obtain ⟨⟨name, behind⟩, -, h⟩ := ok_of_bind h
      obtain ⟨front, -, h⟩ := ok_of_bind h
      obtain ⟨⟨v, behind⟩, hv, h⟩ := ok_of_bind h
      refine ih ?_ h
      intro e he
      rcases mem_put he with heq | he
      · rw [heq]
        exact hread hv
      · exact hbefore e he

/-- A reader for one level is sound if the reader for the level below is. -/
theorem value_step {depth : Nat} (hbelow : ∀ below, depth = below + 1 → Sound (value below)) :
    Sound (value depth) := by
  intro bs v rest h
  have hpair : ∀ {w : Json} {more : List UInt8}, (w, more) = (v, rest) → InRange w → InRange v :=
    fun heq hw => (Prod.mk.inj heq).1 ▸ hw
  rw [value.eq_def] at h
  dsimp only at h
  split at h
  · cases h
  · split at h
    · obtain ⟨more, -, heq⟩ := ok_of_map h
      exact hpair heq .null
    · split at h
      · obtain ⟨more, -, heq⟩ := ok_of_map h
        exact hpair heq (.bool true)
      · split at h
        · obtain ⟨more, -, heq⟩ := ok_of_map h
          exact hpair heq (.bool false)
        · split at h
          · exact number_inRange h
          · split at h
            · exact number_inRange h
            · split at h
              · obtain ⟨⟨s, more⟩, -, heq⟩ := ok_of_map h
                exact hpair heq (.string s)
              · split at h
                · split at h
                  · cases h
                  · rename_i below
                    obtain ⟨⟨items, more⟩, hitems, heq⟩ := ok_of_map h
                    exact hpair heq (.array
                      (items_inRange (hbelow below rfl) _ (List.forall_mem_nil _) hitems))
                · split at h
                  · split at h
                    · cases h
                    · rename_i below
                      obtain ⟨⟨fields, more⟩, hfields, heq⟩ := ok_of_map h
                      exact hpair heq (.object
                        (fields_inRange (hbelow below rfl) _ (List.forall_mem_nil _) hfields))
                  · cases h

/-- Every number in a value that is read is in range. -/
theorem value_inRange (depth : Nat) : Sound (value depth) := by
  induction depth with
  | zero => exact value_step fun below h => absurd h (Nat.succ_ne_zero below).symm
  | succ depth ih =>
    refine value_step fun below h => ?_
    rwa [← Nat.succ.inj h]

end Read

/-- Every number in the value of a text is in range. -/
theorem parse_inRange {text : String} {v : Json} (h : parse text = .ok v) : InRange v := by
  unfold parse parseBytes at h
  obtain ⟨⟨u, rest⟩, hu, hfinish⟩ := ok_of_bind (ok_of_mapError h)
  dsimp only at hfinish
  unfold Read.finish at hfinish
  split at hfinish
  · rw [← Except.ok.inj hfinish]
    exact Read.value_inRange _ hu
  · cases hfinish

end Json

end TableFeed
