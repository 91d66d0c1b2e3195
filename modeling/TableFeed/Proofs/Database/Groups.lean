import Mathlib.Algebra.Order.Field.Power
import TableFeed.Proofs.Database.Decimals

/-!
# Groups of digits

The groups of a cell are added one after the other, and each sum is rounded where its digits do not fit.
If the sum of all of them is held, every sum on the way to it is a beginning of it, and so it is held too.

* **`groupsValue`** — the magnitude of groups, as the database counts them.
* **`ofGroups_eq`** — the groups in front of the point are refused if they do not fit, and never rounded.
* **`group_eq_zero`** — groups beyond the last place are zeros, if the sum is held.
* **`addFraction_of_held`** — so the groups behind the point are added exactly.
* **`ofParts_exact_iff`** — groups are read as a decimal of their magnitude just if that is held.
-/

namespace TableFeed.Decimal96

variable {d : Decimal96}

/-- The magnitude of groups, the first of which counts so many powers of 10000. -/
def groupsValue : ℤ → List ℕ → ℚ
  | _, [] => 0
  | weight, group :: rest => group * 10000 ^ weight + groupsValue (weight - 1) rest

variable {weight : ℤ} {groups : List ℕ}

theorem groupsValue_nonneg (weight : ℤ) (groups : List ℕ) : 0 ≤ groupsValue weight groups := by
  induction groups generalizing weight with
  | nil => exact le_refl 0
  | cons group rest ih =>
    have hfirst : (0 : ℚ) ≤ group * 10000 ^ weight := by positivity
    exact add_nonneg hfirst (ih _)

theorem groupsValue_lt (h : ∀ group ∈ groups, group < 10000) (weight : ℤ) :
    groupsValue weight groups < 10000 ^ (weight + 1) := by
  induction groups generalizing weight with
  | nil =>
    show (0 : ℚ) < _
    positivity
  | cons group rest ih =>
    have hrest := ih (fun g hg => h g (List.mem_cons_of_mem group hg)) (weight - 1)
    rw [sub_add_cancel] at hrest
    have hgroup : (group : ℚ) + 1 ≤ 10000 := by exact_mod_cast h group List.mem_cons_self
    calc group * 10000 ^ weight + groupsValue (weight - 1) rest
        < group * 10000 ^ weight + 10000 ^ weight := by gcongr
      _ = (group + 1) * 10000 ^ weight := by ring
      _ ≤ 10000 * 10000 ^ weight := by gcongr
      _ = 10000 ^ (weight + 1) := by rw [zpow_add_one₀ (by norm_num), mul_comm]

theorem groupsValue_append (weight : ℤ) (front behind : List ℕ) :
    groupsValue weight (front ++ behind) =
      groupsValue weight front + groupsValue (weight - front.length) behind := by
  induction front generalizing weight with
  | nil =>
    rw [List.nil_append, groupsValue, zero_add, List.length_nil, Nat.cast_zero, sub_zero]
  | cons group rest ih =>
    rw [List.cons_append, groupsValue, groupsValue, ih, List.length_cons, add_assoc]
    congr 3
    push_cast
    ring

/-! ## In front of the point -/

/-- Groups as one number. -/
def joined (groups : List ℕ) (n : ℕ) : ℕ :=
  groups.foldl (fun n group => 10000 * n + group) n

theorem le_joined (groups : List ℕ) (n : ℕ) : n ≤ joined groups n := by
  induction groups generalizing n with
  | nil => exact Nat.le_refl n
  | cons group rest ih =>
    have h := ih (10000 * n + group)
    show n ≤ joined rest (10000 * n + group)
    omega

theorem groupsValue_joined (weight : ℤ) (groups : List ℕ) (n : ℕ) :
    n * 10000 ^ (weight + 1) + groupsValue weight groups =
      joined groups n * 10000 ^ (weight + 1 - groups.length) := by
  induction groups generalizing weight n with
  | nil =>
    show _ + (0 : ℚ) = n * _
    rw [add_zero, List.length_nil, Nat.cast_zero, sub_zero]
  | cons group rest ih =>
    have hstep := ih (weight - 1) (10000 * n + group)
    have hlength : weight + 1 - ((group :: rest).length : ℤ) = weight - 1 + 1 - (rest.length : ℤ) := by
      rw [List.length_cons]
      push_cast
      ring
    show _ = (joined rest (10000 * n + group) : ℚ) * _
    rw [hlength, ← hstep, groupsValue, sub_add_cancel, zpow_add_one₀ (by norm_num)]
    push_cast
    ring

/-- One more group behind the ones in front of it, as long as they fit. -/
def pushGroup (n : Option ℕ) (group : ℕ) : Option ℕ :=
  n.bind fun n => if 10000 * n + group < limit then some (10000 * n + group) else none

theorem foldl_pushGroup_none (groups : List ℕ) : groups.foldl pushGroup none = none := by
  induction groups with
  | nil => rfl
  | cons group rest ih => exact ih

/-- Groups that do not fit are refused, be it at the first of them that does not. -/
theorem foldl_pushGroup (groups : List ℕ) {n : ℕ} (hn : n < limit) :
    groups.foldl pushGroup (some n) =
      if joined groups n < limit then some (joined groups n) else none := by
  induction groups generalizing n with
  | nil => exact (if_pos hn).symm
  | cons group rest ih =>
    have hpush : pushGroup (some n) group =
        if 10000 * n + group < limit then some (10000 * n + group) else none := rfl
    rw [List.foldl_cons, hpush]
    show _ = if joined rest (10000 * n + group) < limit then some (joined rest _) else _
    by_cases hfits : 10000 * n + group < limit
    · rw [if_pos hfits, ih hfits]
    · have hle := le_joined rest (10000 * n + group)
      rw [if_neg hfits, foldl_pushGroup_none, if_neg (by omega)]

theorem ofGroups_eq (groups : List ℕ) (shift : ℕ) : ofGroups groups shift =
    if joined groups 0 * 10 ^ (4 * shift) < limit ∧ 10 ^ (4 * shift) < limit then
      some (joined groups 0 * 10 ^ (4 * shift))
    else none := by
  have hpositive : 0 < 10 ^ (4 * shift) := Nat.pow_pos (by decide)
  have hgroups : ofGroups groups shift = (groups.foldl pushGroup (some 0)).bind fun n =>
      if n * 10 ^ (4 * shift) < limit ∧ 10 ^ (4 * shift) < limit then some (n * 10 ^ (4 * shift))
      else none := rfl
  rw [hgroups, foldl_pushGroup groups (by decide)]
  by_cases hjoined : joined groups 0 < limit
  · rw [if_pos hjoined, Option.bind_some]
  · -- zeros behind groups that do not fit do not make them fit
    have hle : joined groups 0 ≤ joined groups 0 * 10 ^ (4 * shift) :=
      Nat.le_mul_of_pos_right _ hpositive
    rw [if_neg hjoined, if_neg (by omega)]
    rfl

/-! ## Behind the point -/

/-- The last of so many groups of places. -/
theorem zpow_mul_places (i : ℕ) : (10000 : ℚ) ^ (-(i : ℤ)) * 10 ^ (4 * i) = 1 := by
  have hten : (10 : ℚ) ^ (4 * i) = 10000 ^ i := by
    rw [pow_mul]
    norm_num
  rw [hten, zpow_neg, zpow_natCast, inv_mul_cancel₀ (by positivity)]

/-- What a group counts at a place, in units of the last place that is computed with. -/
def groupUnits (place group : ℕ) : ℕ :=
  if place ≤ maxScale then group * Nat.pow 10 (maxScale - place)
  else if place = maxScale + 4 ∧ 5000 ≤ group then 1
  else 0

/-- The sum of a magnitude and a group at a place. -/
def addGroup (place group : ℕ) (d : Decimal96) : Option Decimal96 :=
  if groupUnits place group = 0 then some d else d.addUnits (groupUnits place group)

theorem addFraction_cons (place group : ℕ) (rest : List ℕ) (d : Decimal96) :
    addFraction place (group :: rest) d =
      (addGroup place group d).bind (addFraction (place + 4) rest) :=
  rfl

theorem addGroup_inFormat {place group : ℕ} {d' : Decimal96} (hd : d.InFormat)
    (h : addGroup place group d = some d') : d'.InFormat := by
  unfold addGroup at h
  split at h
  · exact Option.some.inj h ▸ hd
  · exact addUnits_inFormat h

/-- A group is added exactly if it counts whole units and the sum is held. -/
theorem addGroup_of_held {i group : ℕ} (hd : d.InFormat)
    (h : Held maxScale (d.magnitude + group * 10000 ^ (-(i : ℤ))))
    (hgroup : 4 * i ≤ maxScale ∨ group = 0) :
    ∃ d', addGroup (4 * i) group d = some d' ∧ d'.InFormat ∧
      d'.magnitude = d.magnitude + group * 10000 ^ (-(i : ℤ)) := by
  have hunits : (groupUnits (4 * i) group : ℚ) / 10 ^ maxScale = group * 10000 ^ (-(i : ℤ)) := by
    rw [div_eq_iff (by positivity), mul_assoc]
    unfold groupUnits
    rcases hgroup with hplace | rfl
    · rw [if_pos hplace, ← Nat.add_sub_of_le hplace, pow_add, ← mul_assoc (_ ^ (-(i : ℤ))),
        zpow_mul_places, one_mul, Nat.add_sub_cancel_left, Nat.pow_eq]
      push_cast
      rfl
    · simp
  unfold addGroup
  by_cases hzero : groupUnits (4 * i) group = 0
  · rw [hzero, Nat.cast_zero, zero_div] at hunits
    rw [if_pos hzero, ← hunits, add_zero]
    exact ⟨d, rfl, hd, rfl⟩
  · rw [if_neg hzero, ← hunits]
    exact addUnits_of_held hd (hunits ▸ h)

theorem addFraction_inFormat {place : ℕ} {d' : Decimal96} (hd : d.InFormat)
    (h : addFraction place groups d = some d') : d'.InFormat := by
  induction groups generalizing place d with
  | nil => exact Option.some.inj h ▸ hd
  | cons group rest ih =>
    obtain ⟨d₁, hfirst, hrest⟩ := Option.bind_eq_some_iff.mp h
    exact ih (addGroup_inFormat hd hfirst) hrest

/-- Groups beyond the last place that is computed with are zeros, if a sum with them is held. -/
theorem group_eq_zero {i group : ℕ} {rest : List ℕ} (hgroups : ∀ g ∈ group :: rest, g < 10000)
    (hd : d.InFormat) (h : Held maxScale (d.magnitude + groupsValue (-((i + 1 : ℕ) : ℤ)) (group :: rest)))
    (hplace : maxScale < 4 * (i + 1)) : group = 0 := by
  have hnonneg := groupsValue_nonneg (-((i + 1 : ℕ) : ℤ)) (group :: rest)
  have hless : groupsValue (-((i + 1 : ℕ) : ℤ)) (group :: rest) * 10 ^ maxScale < 1 := by
    have hlast : maxScale ≤ 4 * i := by
      have : maxScale = 4 * 7 := rfl
      omega
    calc groupsValue (-((i + 1 : ℕ) : ℤ)) (group :: rest) * 10 ^ maxScale
        ≤ groupsValue (-((i + 1 : ℕ) : ℤ)) (group :: rest) * 10 ^ (4 * i) := by
          gcongr
          norm_num
      _ < 10000 ^ (-((i + 1 : ℕ) : ℤ) + 1) * 10 ^ (4 * i) := by
          gcongr
          exact groupsValue_lt hgroups _
      _ = 10000 ^ (-(i : ℤ)) * 10 ^ (4 * i) := by
          congr 2
          push_cast
          ring
      _ = 1 := zpow_mul_places i
  have hzero := hd.hasPlaces.eq_zero h.hasPlaces hnonneg hless
  have hfirst : (group : ℚ) * 10000 ^ (-((i + 1 : ℕ) : ℤ)) = 0 := by
    have hrest := groupsValue_nonneg (-((i + 1 : ℕ) : ℤ) - 1) rest
    have hgroup : (0 : ℚ) ≤ group * 10000 ^ (-((i + 1 : ℕ) : ℤ)) := by positivity
    rw [groupsValue] at hzero
    linarith
  exact_mod_cast (mul_eq_zero.mp hfirst).resolve_right (by positivity)

/-- Groups behind the point are added exactly if their sum is held. -/
theorem addFraction_of_held {i : ℕ} (hgroups : ∀ g ∈ groups, g < 10000) (hd : d.InFormat)
    (hplaces : HasPlaces (4 * i) d.magnitude)
    (h : Held maxScale (d.magnitude + groupsValue (-((i + 1 : ℕ) : ℤ)) groups)) :
    ∃ d', addFraction (4 * (i + 1)) groups d = some d' ∧ d'.InFormat ∧
      d'.magnitude = d.magnitude + groupsValue (-((i + 1 : ℕ) : ℤ)) groups := by
  induction groups generalizing i d with
  | nil => exact ⟨d, rfl, hd, (add_zero _).symm⟩
  | cons group rest ih =>
    have hrest : ∀ g ∈ rest, g < 10000 := fun g hg => hgroups g (List.mem_cons_of_mem group hg)
    have hplace : 4 * (i + 1) ≤ maxScale ∨ group = 0 :=
      (Nat.lt_or_ge maxScale (4 * (i + 1))).symm.imp_right (group_eq_zero hgroups hd h)
    have hweight : -((i + 1 : ℕ) : ℤ) - 1 = -((i + 1 + 1 : ℕ) : ℤ) := by
      push_cast
      ring
    rw [groupsValue, ← add_assoc, hweight] at h ⊢
    -- the sum with this group has its places, and is a beginning of the whole
    have hsum : HasPlaces (4 * (i + 1)) (d.magnitude + group * 10000 ^ (-((i + 1 : ℕ) : ℤ))) := by
      refine (hplaces.mono (by omega)).add ⟨group, ?_⟩
      rw [mul_assoc, zpow_mul_places, mul_one]
    have hless : groupsValue (-((i + 1 + 1 : ℕ) : ℤ)) rest * 10 ^ (4 * (i + 1)) < 1 := by
      rw [← zpow_mul_places (i + 1), ← hweight]
      gcongr
      have hlt := groupsValue_lt hrest (-((i + 1 : ℕ) : ℤ) - 1)
      rwa [sub_add_cancel] at hlt
    have hheld := h.of_add hsum (groupsValue_nonneg _ rest) hless
    obtain ⟨d₁, hfirst, hd₁, hvalue⟩ := addGroup_of_held hd hheld hplace
    -- from here on the sum stands for the beginning
    rw [← hvalue] at h hsum ⊢
    obtain ⟨d', hadd, hd', hvalue'⟩ := ih hrest hd₁ hsum h
    refine ⟨d', ?_, hd', hvalue'⟩
    rw [addFraction_cons, hfirst]
    exact hadd

/-! ## The whole -/

/-- The number that the groups in front of the point make up. -/
def wholePart (weight : ℤ) (groups : List ℕ) : ℕ :=
  joined (groups.take (weight + 1).toNat) 0 * 10 ^ (4 * ((weight + 1).toNat - groups.length))

/-- What the groups behind the point make up. -/
def fractionPart (weight : ℤ) (groups : List ℕ) : ℚ :=
  groupsValue (-(((-weight - 1).toNat + 1 : ℕ) : ℤ)) (groups.drop (weight + 1).toNat)

theorem groupsValue_split (weight : ℤ) (groups : List ℕ) :
    groupsValue weight groups = wholePart weight groups + fractionPart weight groups := by
  have hsplit := groupsValue_append weight (groups.take (weight + 1).toNat)
    (groups.drop (weight + 1).toNat)
  rw [List.take_append_drop, List.length_take] at hsplit
  have hfront : groupsValue weight (groups.take (weight + 1).toNat) = wholePart weight groups := by
    unfold wholePart
    rcases Int.le_total (weight + 1) 0 with hneg | hpos
    · -- no group is in front of the point
      rw [Int.toNat_of_nonpos hneg, List.take_zero]
      show (0 : ℚ) = ((0 * _ : ℕ) : ℚ)
      rw [Nat.zero_mul, Nat.cast_zero]
    · -- the groups count from the point on, with zeros behind them if there are too few
      have hjoined := groupsValue_joined weight (groups.take (weight + 1).toNat) 0
      have hshift : weight + 1 - ((groups.take (weight + 1).toNat).length : ℤ) =
          (((weight + 1).toNat - groups.length : ℕ) : ℤ) := by
        rw [List.length_take]
        omega
      have hten : (10000 : ℚ) = 10 ^ 4 := by norm_num
      rw [Nat.cast_zero, zero_mul, zero_add, hshift, zpow_natCast] at hjoined
      rw [hjoined, pow_mul]
      push_cast
      rw [hten]
  have hbehind : groupsValue (weight - (min (weight + 1).toNat groups.length : ℕ))
      (groups.drop (weight + 1).toNat) = fractionPart weight groups := by
    unfold fractionPart
    rcases Nat.lt_or_ge (weight + 1).toNat groups.length with hsome | hnone
    · congr 1
      omega
    · rw [List.drop_of_length_le hnone]
      rfl
  rw [hsplit, hfront, hbehind]

variable {negative : Bool} {scale : ℕ}

/-- A decimal is found in three steps, of which the first two can fail. -/
theorem ofParts_eq_some {d : Decimal96} : ofParts negative weight scale groups = some d ↔
    (wholePart weight groups < limit ∧ 10 ^ (4 * ((weight + 1).toNat - groups.length)) < limit) ∧
      ∃ d', addFraction (4 * ((-weight - 1).toNat + 1)) (groups.drop (weight + 1).toNat)
          { mantissa := wholePart weight groups } = some d' ∧
        rescale { d' with negative } scale = d := by
  have hparts : ofParts negative weight scale groups =
      (ofGroups (groups.take (weight + 1).toNat) ((weight + 1).toNat - groups.length)).bind fun whole =>
        (addFraction (4 * ((-weight - 1).toNat + 1)) (groups.drop (weight + 1).toNat)
          { mantissa := whole }).bind fun d' => some (rescale { d' with negative } scale) :=
    rfl
  rw [hparts, ofGroups_eq, Option.bind_eq_some_iff]
  constructor
  · rintro ⟨whole, hwhole, hrest⟩
    split at hwhole
    · rename_i hfits
      obtain rfl := Option.some.inj hwhole
      obtain ⟨d', hadd, hshown⟩ := Option.bind_eq_some_iff.mp hrest
      exact ⟨hfits, d', hadd, Option.some.inj hshown⟩
    · cases hwhole
  · rintro ⟨hfits, d', hadd, rfl⟩
    exact ⟨_, if_pos hfits, Option.bind_eq_some_iff.mpr ⟨d', hadd, rfl⟩⟩

theorem inFormat_whole {n : ℕ} (h : n < limit) : InFormat { mantissa := n } :=
  ⟨h, Nat.zero_le _⟩

theorem magnitude_whole (n : ℕ) : magnitude { mantissa := n } = n := by
  unfold magnitude
  rw [pow_zero, div_one]

/-- A decimal of the groups of a cell has its sign, and a magnitude that is held. -/
theorem ofParts_held {d : Decimal96} (h : ofParts negative weight scale groups = some d) :
    d.negative = negative ∧ d.mantissa < limit ∧ Held (min maxScale scale) d.magnitude := by
  obtain ⟨⟨hwhole, -⟩, d', hadd, rfl⟩ := ofParts_eq_some.mp h
  have hd' : d'.InFormat := addFraction_inFormat (inFormat_whole hwhole) hadd
  obtain ⟨hfits, hplaces⟩ := rescale_bounds (show InFormat { d' with negative } from hd') scale
  have hshown : InFormat (rescale { d' with negative } scale) :=
    ⟨hfits, hplaces.trans (min_le_right _ _)⟩
  exact ⟨rescale_negative _ scale, hfits, hshown.held (hplaces.trans_eq (min_comm _ _))⟩

/-- A power of 10000 fits if it is no more than the seventh. -/
theorem unit_lt_iff (shift : ℕ) : 10 ^ (4 * shift) < limit ↔ shift ≤ 7 := by
  constructor
  · intro hless
    by_contra hmore
    have hlow : 10 ^ (4 * 8) ≤ 10 ^ (4 * shift) := Nat.pow_le_pow_right (by decide) (by omega)
    have hlimit : limit ≤ 10 ^ (4 * 8) := by decide
    omega
  · intro hseven
    have hhigh : 10 ^ (4 * shift) ≤ 10 ^ (4 * 7) := Nat.pow_le_pow_right (by decide) (by omega)
    have hlimit : 10 ^ (4 * 7) < limit := by decide
    omega

theorem fractionPart_bounds (hgroups : ∀ g ∈ groups, g < 10000) (weight : ℤ) :
    0 ≤ fractionPart weight groups ∧ fractionPart weight groups < 1 := by
  refine ⟨groupsValue_nonneg _ _, ?_⟩
  have hdrop : ∀ g ∈ groups.drop (weight + 1).toNat, g < 10000 :=
    fun g hg => hgroups g (List.mem_of_mem_drop hg)
  refine (groupsValue_lt hdrop _).trans_le (zpow_le_one_of_nonpos₀ (by norm_num) ?_)
  push_cast
  omega

/-- What is in front of the point fits, if the whole is held. -/
theorem wholePart_lt (hgroups : ∀ g ∈ groups, g < 10000)
    (h : Held maxScale (groupsValue weight groups)) : wholePart weight groups < limit := by
  obtain ⟨hnonneg, hless⟩ := fractionPart_bounds hgroups weight
  rw [groupsValue_split] at h
  exact (h.of_add (hasPlaces_natCast 0 _) hnonneg (by rwa [pow_zero, mul_one])).lt_limit

/-- A unit in front of the point fits too, but for a zero with many zeros behind its groups. -/
theorem unit_lt (hwhole : wholePart weight groups < limit)
    (hzero : groupsValue weight groups ≠ 0 ∨ weight < groups.length + 7) :
    10 ^ (4 * ((weight + 1).toNat - groups.length)) < limit := by
  by_cases hshort : (weight + 1).toNat ≤ groups.length + 7
  · exact (unit_lt_iff _).mpr (by omega)
  · -- nothing is behind the point, so the number in front of it is not zero
    have hfraction : fractionPart weight groups = 0 := by
      unfold fractionPart
      rw [List.drop_of_length_le (by omega)]
      rfl
    have hvalue := hzero.resolve_right (by omega)
    rw [groupsValue_split, hfraction, add_zero] at hvalue
    have hjoined : joined (groups.take (weight + 1).toNat) 0 ≠ 0 := fun hjoined => hvalue (by
      unfold wholePart
      rw [hjoined, Nat.zero_mul, Nat.cast_zero])
    exact lt_of_le_of_lt (Nat.le_mul_of_pos_left _ (Nat.pos_of_ne_zero hjoined)) hwhole

/-- Groups are read as a decimal of their magnitude just if that is held. A zero with so many zeros
behind its groups that a unit there does not fit is refused. -/
theorem ofParts_exact_iff (hgroups : ∀ g ∈ groups, g < 10000) :
    (∃ d, ofParts negative weight scale groups = some d ∧ d.magnitude = groupsValue weight groups) ↔
      Held (min maxScale scale) (groupsValue weight groups) ∧
        (groupsValue weight groups ≠ 0 ∨ weight < groups.length + 7) := by
  constructor
  · rintro ⟨d, hd, hvalue⟩
    have hunit := (unit_lt_iff _).mp (ofParts_eq_some.mp hd).1.2
    exact ⟨hvalue ▸ (ofParts_held hd).2.2, .inr (by omega)⟩
  · rintro ⟨hheld, hzero⟩
    -- the sum begins in front of the point, and is held all the way to its last group
    have hmost := hheld.mono (min_le_left _ _)
    have hwhole := wholePart_lt hgroups hmost
    have hplaces : HasPlaces (4 * (-weight - 1).toNat)
        (magnitude { mantissa := wholePart weight groups }) := by
      rw [magnitude_whole]
      exact hasPlaces_natCast _ _
    have hdrop : ∀ g ∈ groups.drop (weight + 1).toNat, g < 10000 :=
      fun g hg => hgroups g (List.mem_of_mem_drop hg)
    have hsplit : groupsValue weight groups =
        magnitude { mantissa := wholePart weight groups } + fractionPart weight groups := by
      rw [magnitude_whole, groupsValue_split]
    rw [hsplit] at hmost
    obtain ⟨d', hadd, -, hvalue⟩ :=
      addFraction_of_held hdrop (inFormat_whole hwhole) hplaces hmost
    have hsum : magnitude { d' with negative } = groupsValue weight groups := hvalue.trans hsplit.symm
    refine ⟨_, ofParts_eq_some.mpr ⟨⟨hwhole, unit_lt hwhole hzero⟩, d', hadd, rfl⟩, ?_⟩
    rw [← hsum, min_comm] at hheld
    exact (rescale_of_held hheld).trans hsum

end TableFeed.Decimal96
