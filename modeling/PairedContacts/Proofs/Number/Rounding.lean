import PairedContacts.Number.Binary64

/-!
# Rounding to binary numbers

A ratio becomes the finite number next to it, of two equally near ones the one with the even
significand, and an infinity from the midpoint behind the greatest finite number on.  Everything is
said of whole numbers: finite magnitudes are counted in units of the least one above zero, and
distances in parts of such a unit.
-/

set_option autoImplicit false

namespace PairedContacts

/-! ## Rounding to a whole number -/

/-- How far `count` parts are from a total. -/
def gap (total part count : Nat) : Nat :=
  (count * part - total) + (total - count * part)

section Gap

variable (total : Nat) {part : Nat}

theorem gap_mul (part count factor : Nat) :
    gap total part (count * factor) = gap total (part * factor) count := by
  rw [gap, gap, Nat.mul_assoc, Nat.mul_comm factor]

theorem mul_le_gap_add_gap (steps : Nat) {m n : Nat} (apart : m + steps ≤ n ∨ n + steps ≤ m) :
    steps * part ≤ gap total part m + gap total part n := by
  unfold gap
  rcases apart with less | more
  · have room := Nat.mul_le_mul_right part less
    rw [Nat.add_mul] at room
    omega
  · have room := Nat.mul_le_mul_right part more
    rw [Nat.add_mul] at room
    omega

theorem part_le_gap_add_gap {m n : Nat} (differ : m ≠ n) :
    part ≤ gap total part m + gap total part n := by
  have apart : 1 * part ≤ gap total part m + gap total part n :=
    mul_le_gap_add_gap total 1 (by omega)
  rwa [Nat.one_mul] at apart

theorem gap_lt_gap {m n : Nat} (pos : 0 < part) (less : m < n) (below : n * part ≤ total) :
    gap total part n < gap total part m := by
  have apart : m * part < n * part := Nat.mul_lt_mul_of_pos_right less pos
  unfold gap
  omega

end Gap

namespace Binary64

section RoundRatio

variable (total : Nat) {part : Nat}

theorem roundRatio_near (pos : 0 < part) : 2 * gap total part (roundRatio total part) ≤ part := by
  have division := Nat.div_add_mod' total part
  have less := Nat.mod_lt total pos
  simp only [roundRatio, gap]
  split
  · next up =>
    have up : part ≤ 2 * (total % part) := by
      simp only [Bool.or_eq_true, decide_eq_true_eq, Bool.and_eq_true, beq_iff_eq] at up
      omega
    have more := Nat.add_one_mul (total / part) part
    omega
  · next down =>
    have down : 2 * (total % part) ≤ part := by
      simp only [Bool.or_eq_true, decide_eq_true_eq, not_or] at down
      omega
    omega

theorem even_roundRatio (pos : 0 < part)
    (tie : 2 * gap total part (roundRatio total part) = part) : roundRatio total part % 2 = 0 := by
  have division := Nat.div_add_mod' total part
  have less := Nat.mod_lt total pos
  simp only [roundRatio, gap] at tie ⊢
  split
  · next up =>
    rw [if_pos up] at tie
    have more := Nat.add_one_mul (total / part) part
    simp only [Bool.or_eq_true, decide_eq_true_eq, Bool.and_eq_true, beq_iff_eq] at up
    omega
  · next down =>
    rw [if_neg down] at tie
    simp only [Bool.or_eq_true, decide_eq_true_eq, Bool.and_eq_true, beq_iff_eq] at down
    omega

theorem gap_roundRatio_le (pos : 0 < part) (count : Nat) :
    gap total part (roundRatio total part) ≤ gap total part count := by
  by_cases same : roundRatio total part = count
  · exact Nat.le_of_eq (congrArg _ same)
  · have near := roundRatio_near total pos
    have apart : part ≤ _ := part_le_gap_add_gap total same
    omega

/-- No other whole number is as near and even at a tie. -/
theorem roundRatio_eq {count : Nat} (pos : 0 < part) (near : 2 * gap total part count ≤ part)
    (even : 2 * gap total part count = part -> count % 2 = 0) :
    roundRatio total part = count := by
  refine Decidable.byContradiction fun differ => ?_
  have least := roundRatio_near total pos
  have apart : part ≤ _ := part_le_gap_add_gap total differ
  -- Both stand at one midpoint, so both are even and two steps apart.
  have even := even (by omega)
  have also := even_roundRatio total pos (by omega)
  have further : 2 * part ≤ gap total part (roundRatio total part) + gap total part count :=
    mul_le_gap_add_gap total 2 (by omega)
  omega

/-- The even number is reached from the midpoint below it on, since a tie goes to it. -/
theorem le_roundRatio_iff (count : Nat) (pos : 0 < part) (even : count % 2 = 0) :
    count ≤ roundRatio total part ↔ 2 * (count * part) ≤ 2 * total + part := by
  have near := roundRatio_near total pos
  constructor
  · intro reached
    have reached : count * part ≤ roundRatio total part * part := Nat.mul_le_mul_right part reached
    unfold gap at near
    omega
  · intro midpoint
    refine Nat.le_of_not_lt fun short => ?_
    -- The step below `count` is odd, so it is not the end of a tie.
    have below : roundRatio total part + 1 ≠ count ∨ roundRatio total part % 2 = 1 := by omega
    have apart := Nat.add_one_mul (roundRatio total part) part
    rcases below with further | odd
    · have further : (roundRatio total part + 1 + 1) * part ≤ count * part :=
        Nat.mul_le_mul_right part (by omega)
      have wider := Nat.add_one_mul (roundRatio total part + 1) part
      unfold gap at near
      omega
    · have next : (roundRatio total part + 1) * part ≤ count * part :=
        Nat.mul_le_mul_right part (by omega)
      have untied : 2 * gap total part (roundRatio total part) ≠ part := fun tie => by
        have even := even_roundRatio total pos tie
        omega
      unfold gap at near untied
      omega

theorem roundRatio_le {count : Nat} (pos : 0 < part) (total_le : total ≤ count * part) :
    roundRatio total part ≤ count := by
  refine Nat.le_of_not_lt fun more => ?_
  have near := roundRatio_near total pos
  have apart := Nat.add_one_mul count part
  have more : (count + 1) * part ≤ roundRatio total part * part :=
    Nat.mul_le_mul_right part (by omega)
  unfold gap at near
  omega

end RoundRatio

/-! ## Finite numbers in units -/

theorem twoTo_52 : twoTo 52 = 4503599627370496 := rfl

theorem twoTo_53 : twoTo 53 = 9007199254740992 := rfl

theorem twoTo_54 : twoTo 54 = 18014398509481984 := rfl

/-- The magnitude of a finite number in units of the least one above zero. -/
def units (x : Binary64) : Nat :=
  x.significand * twoTo (x.scale + 1074).toNat

theorem units_eq (x : Binary64) : x.units = x.significand * twoTo (x.exponentField - 1) := by
  have same : (x.scale + 1074).toNat = x.exponentField - 1 := by
    unfold scale
    split <;> omega
  rw [units, same]

theorem significand_lt (x : Binary64) : x.significand < twoTo 53 := by
  have less : x.fractionField < twoTo 52 := Nat.mod_lt _ (twoTo_pos 52)
  have double : twoTo 53 = twoTo 52 + twoTo 52 := rfl
  unfold significand
  split <;> omega

/-- A number of a smaller exponent lies below every full significand. -/
theorem units_lt (x : Binary64) {shift : Nat} (lower : x.exponentField - 1 < shift) :
    x.units < twoTo 52 * twoTo shift := by
  have step : twoTo (x.exponentField - 1) * 2 ≤ twoTo shift := by
    rw [← twoTo_succ]
    exact twoTo_le_twoTo lower
  have double : twoTo 53 = twoTo 52 * 2 := rfl
  rw [units_eq]
  calc x.significand * twoTo (x.exponentField - 1)
      < twoTo 53 * twoTo (x.exponentField - 1) :=
        Nat.mul_lt_mul_of_pos_right x.significand_lt (twoTo_pos _)
    _ = twoTo 52 * (twoTo (x.exponentField - 1) * 2) := by
        rw [double, Nat.mul_assoc, Nat.mul_comm 2]
    _ ≤ twoTo 52 * twoTo shift := Nat.mul_le_mul_left _ step

/-- A number of the same or a greater exponent stands on the grid of the significands. -/
theorem exists_units (x : Binary64) {shift : Nat} (upper : shift ≤ x.exponentField - 1) :
    ∃ count, x.units = count * twoTo shift := by
  refine ⟨x.significand * twoTo (x.exponentField - 1 - shift), ?_⟩
  rw [units_eq, Nat.mul_assoc, ← twoTo_add, Nat.sub_add_cancel upper]

/-! ### The whole part -/

/-- What the two powers of a number stand for in units. -/
theorem units_mul (x : Binary64) :
    x.units * twoTo (-x.scale).toNat =
      x.significand * twoTo x.scale.toNat * twoTo 1074 := by
  have sum : (x.scale + 1074).toNat + (-x.scale).toNat = x.scale.toNat + 1074 := by
    unfold scale
    split <;> omega
  rw [units, Nat.mul_assoc, ← twoTo_add, sum, twoTo_add, Nat.mul_assoc]

theorem wholeMagnitude_eq (x : Binary64) : x.wholeMagnitude = x.units / twoTo 1074 := by
  rw [wholeMagnitude, ← Nat.mul_div_mul_right _ _ (twoTo_pos 1074), ← units_mul, Nat.mul_comm,
    Nat.mul_div_mul_left _ _ (twoTo_pos _)]

theorem isWhole_iff (x : Binary64) :
    x.isWhole = true ↔ x.units = x.wholeMagnitude * twoTo 1074 := by
  have division := Nat.div_add_mod' (x.significand * twoTo x.scale.toNat) (twoTo (-x.scale).toNat)
  rw [← wholeMagnitude] at division
  rw [isWhole, beq_iff_eq]
  constructor
  · intro exact
    rw [exact, Nat.add_zero] at division
    refine Nat.eq_of_mul_eq_mul_right (twoTo_pos (-x.scale).toNat) ?_
    rw [units_mul, ← division, Nat.mul_right_comm]
  · intro same
    have units := x.units_mul
    rw [same, Nat.mul_right_comm] at units
    have whole := Nat.eq_of_mul_eq_mul_right (twoTo_pos 1074) units
    omega

/-- A number equals an integer if it is as many units and of its sign. -/
theorem equalsInt_iff (x : Binary64) (n : Int) :
    x.equalsInt n = true ↔
      x.isFinite = true ∧ x.units = n.natAbs * twoTo 1074 ∧
        (n = 0 ∨ x.isNegative = decide (n < 0)) := by
  have signed : x.truncate = n ↔
      x.wholeMagnitude = n.natAbs ∧ (n = 0 ∨ x.isNegative = decide (n < 0)) := by
    unfold truncate
    cases x.isNegative <;> simp <;> omega
  rw [equalsInt, Bool.and_eq_true, Bool.and_eq_true, beq_iff_eq, isWhole_iff, signed, and_assoc]
  refine and_congr_right fun _ => ?_
  constructor
  · rintro ⟨whole, same, sign⟩
    rw [same] at whole
    exact ⟨whole, sign⟩
  · rintro ⟨whole, sign⟩
    have same : x.wholeMagnitude = n.natAbs := by
      rw [wholeMagnitude_eq, whole, Nat.mul_div_cancel _ (twoTo_pos 1074)]
    rw [same]
    exact ⟨whole, rfl, sign⟩

/-! ### Fields -/

theorem toNat_toUInt64 {code : Nat} (inside : code < 2047 * twoTo 52) :
    code.toUInt64.toNat = code := by
  have room : 2047 * twoTo 52 < 2 ^ 64 := by decide
  rw [Nat.toUInt64, UInt64.toNat_ofNat', Nat.mod_eq_of_lt (Nat.lt_trans inside room)]

section Encoded

variable {field fraction : Nat} (finite : field < 2047) (proper : fraction < twoTo 52)
include finite proper

theorem encoded_lt : field * twoTo 52 + fraction < 2047 * twoTo 52 := by
  have next : (field + 1) * twoTo 52 ≤ 2047 * twoTo 52 := Nat.mul_le_mul_right _ finite
  rw [Nat.add_one_mul] at next
  omega

theorem exponentField_encoded :
    exponentField ⟨(field * twoTo 52 + fraction).toUInt64⟩ = field := by
  have whole : (field * twoTo 52 + fraction) / twoTo 52 = field := by
    rw [Nat.add_comm, Nat.add_mul_div_right _ _ (twoTo_pos 52), Nat.div_eq_of_lt proper,
      Nat.zero_add]
  rw [exponentField, toNat_toUInt64 (encoded_lt finite proper), whole]
  exact Nat.mod_eq_of_lt (Nat.lt_trans finite (by decide))

theorem fractionField_encoded :
    fractionField ⟨(field * twoTo 52 + fraction).toUInt64⟩ = fraction := by
  rw [fractionField, toNat_toUInt64 (encoded_lt finite proper), Nat.add_comm,
    Nat.add_mul_mod_self_right]
  exact Nat.mod_eq_of_lt proper

theorem isFinite_encoded : isFinite ⟨(field * twoTo 52 + fraction).toUInt64⟩ = true := by
  simp only [isFinite, exponentField_encoded finite proper, bne_iff_ne]
  omega

theorem units_encoded :
    units ⟨(field * twoTo 52 + fraction).toUInt64⟩ =
      if field = 0 then fraction else (twoTo 52 + fraction) * twoTo (field - 1) := by
  rw [units_eq, significand, exponentField_encoded finite proper,
    fractionField_encoded finite proper]
  split
  · next subnormal =>
    subst subnormal
    exact Nat.mul_one fraction
  · rfl

end Encoded

/-- What the fields of a number say when a significand is added to its exponent: one of fifty-four
bits carries into the exponent. -/
theorem encoded_cases {shift significand : Nat}
    (inside : shift * twoTo 52 + significand < 2047 * twoTo 52) (narrow : significand ≤ twoTo 53)
    (normal : 0 < shift -> twoTo 52 ≤ significand) :
    ∃ field fraction, field < 2047 ∧ fraction < twoTo 52 ∧
      shift * twoTo 52 + significand = field * twoTo 52 + fraction ∧
      significand * twoTo shift =
        if field = 0 then fraction else (twoTo 52 + fraction) * twoTo (field - 1) := by
  have double : twoTo 53 = twoTo 52 + twoTo 52 := rfl
  have bounded (field : Nat) (under : field * twoTo 52 < 2047 * twoTo 52) : field < 2047 :=
    Nat.lt_of_mul_lt_mul_right under
  rcases Nat.lt_or_ge significand (twoTo 52) with subnormal | whole
  · have unshifted : shift = 0 := by omega
    subst unshifted
    exact ⟨0, significand, by decide, subnormal, rfl, Nat.mul_one significand⟩
  rcases Nat.lt_or_eq_of_le narrow with kept | carried
  · have code : shift * twoTo 52 + significand =
        (shift + 1) * twoTo 52 + (significand - twoTo 52) := by
      rw [Nat.add_one_mul]
      omega
    refine ⟨shift + 1, significand - twoTo 52, bounded _ (by omega), by omega, code, ?_⟩
    rw [if_neg (Nat.succ_ne_zero shift), Nat.add_sub_of_le whole, Nat.add_sub_cancel]
  · have code : shift * twoTo 52 + significand = (shift + 2) * twoTo 52 + 0 := by
      rw [Nat.add_mul]
      omega
    refine ⟨shift + 2, 0, bounded _ (by omega), twoTo_pos 52, code, ?_⟩
    rw [if_neg (Nat.succ_ne_zero _), carried, double, ← Nat.two_mul, Nat.mul_comm 2, Nat.mul_assoc,
      Nat.mul_comm 2, ← twoTo_succ]
    rfl

/-- Fields and units of a significand that is added to its exponent. -/
theorem units_carried {shift significand : Nat}
    (inside : shift * twoTo 52 + significand < 2047 * twoTo 52) (narrow : significand ≤ twoTo 53)
    (normal : 0 < shift -> twoTo 52 ≤ significand) :
    isFinite ⟨(shift * twoTo 52 + significand).toUInt64⟩ = true ∧
      units ⟨(shift * twoTo 52 + significand).toUInt64⟩ = significand * twoTo shift := by
  obtain ⟨field, fraction, finite, proper, code, same⟩ := encoded_cases inside narrow normal
  rw [code, same]
  exact ⟨isFinite_encoded finite proper, units_encoded finite proper⟩

theorem significand_mod_two (x : Binary64) : x.significand % 2 = x.bits.toNat % 2 := by
  have half : twoTo 52 = 2 * twoTo 51 := rfl
  have parity : x.fractionField % 2 = x.bits.toNat % 2 := by
    rw [fractionField, half, Nat.mod_mul_right_mod]
  unfold significand
  split <;> omega

/-! ## Rounding to a finite number -/

/-- How far the significand of a total stands from its units. -/
def shiftOf (total part : Nat) : Nat :=
  (total / part).log2 - 52

section ShiftOf

variable (total : Nat) {part : Nat} (pos : 0 < part)
include pos

theorem total_lt : total < twoTo 53 * (part * twoTo (shiftOf total part)) := by
  have log : total / part < 2 ^ ((total / part).log2 + 1) := Nat.lt_log2_self
  have room : 2 ^ ((total / part).log2 + 1) ≤ 2 ^ (53 + shiftOf total part) :=
    Nat.pow_le_pow_right (by decide) (by unfold shiftOf; omega)
  have less : total / part < twoTo (53 + shiftOf total part) := Nat.lt_of_lt_of_le log room
  rw [Nat.div_lt_iff_lt_mul pos, twoTo_add, Nat.mul_assoc, Nat.mul_comm _ part] at less
  exact less

theorem le_total (shifted : 0 < shiftOf total part) :
    twoTo 52 * (part * twoTo (shiftOf total part)) ≤ total := by
  have log : 2 ^ (total / part).log2 ≤ total / part := by
    refine Nat.log2_self_le fun none => ?_
    rw [shiftOf, none] at shifted
    exact absurd shifted (by decide)
  have exponent : (total / part).log2 = 52 + shiftOf total part := by
    unfold shiftOf at *
    omega
  have reached : twoTo (52 + shiftOf total part) ≤ total / part := by
    rw [exponent] at log
    exact log
  rw [Nat.le_div_iff_mul_le pos, twoTo_add, Nat.mul_assoc, Nat.mul_comm _ part] at reached
  exact reached

theorem shiftOf_eq {shift : Nat} (below : total < twoTo 53 * (part * twoTo shift))
    (above : 0 < shift -> twoTo 52 * (part * twoTo shift) ≤ total) :
    shiftOf total part = shift := by
  have double {m n : Nat} (less : m < n) : part * twoTo m * 2 ≤ part * twoTo n := by
    rw [Nat.mul_assoc, ← twoTo_succ]
    exact Nat.mul_le_mul_left _ (twoTo_le_twoTo less)
  rcases Nat.lt_trichotomy (shiftOf total part) shift with less | same | more
  · have less' := total_lt total pos
    have step := double less
    have above := above (Nat.zero_lt_of_lt less)
    rw [twoTo_53] at less'
    rw [twoTo_52] at above
    omega
  · exact same
  · have reached := le_total total pos (Nat.zero_lt_of_lt more)
    have step := double more
    rw [twoTo_53] at below
    rw [twoTo_52] at reached
    omega

end ShiftOf

/-- A ratio as the significand of a finite number, before it is joined with its exponent. -/
def rounded (total part : Nat) : Nat :=
  roundRatio total (part * twoTo (shiftOf total part))

/-- The bits of the significand beside its exponent. -/
def code (total part : Nat) : Nat :=
  shiftOf total part * twoTo 52 + rounded total part

section Rounded

variable (total : Nat) {part : Nat} (pos : 0 < part)
include pos

theorem part_pos : 0 < part * twoTo (shiftOf total part) :=
  Nat.mul_pos pos (twoTo_pos _)

theorem rounded_le : rounded total part ≤ twoTo 53 :=
  roundRatio_le total (part_pos total pos) (Nat.le_of_lt (total_lt total pos))

theorem le_rounded (shifted : 0 < shiftOf total part) : twoTo 52 ≤ rounded total part := by
  refine (le_roundRatio_iff total (twoTo 52) (part_pos total pos) rfl).mpr ?_
  have reached := le_total total pos shifted
  omega

/-- No finite number lies nearer, and one as near leaves the even significand to the result. -/
theorem gap_rounded (y : Binary64) :
    gap total part (rounded total part * twoTo (shiftOf total part)) ≤ gap total part y.units ∧
      (y.units ≠ rounded total part * twoTo (shiftOf total part) ->
        gap total part y.units = gap total part (rounded total part * twoTo (shiftOf total part)) ->
        rounded total part % 2 = 0) := by
  have nearest := gap_roundRatio_le total (part_pos total pos)
  rcases Nat.lt_or_ge (y.exponentField - 1) (shiftOf total part) with lower | upper
  · -- Full significands of this exponent lie between the smaller number and the total.
    have closer : gap total part (twoTo 52 * twoTo (shiftOf total part)) < gap total part y.units := by
      refine gap_lt_gap total pos (units_lt y lower) ?_
      rw [Nat.mul_assoc, Nat.mul_comm _ part]
      exact le_total total pos (Nat.zero_lt_of_lt lower)
    have grid := nearest (twoTo 52)
    rw [← gap_mul, ← gap_mul] at grid
    change gap total part (rounded total part * _) ≤ _ at grid
    exact ⟨by omega, fun _ tie => by omega⟩
  · obtain ⟨count, same⟩ := exists_units y upper
    rw [same, gap_mul, gap_mul]
    refine ⟨nearest count, fun other tie => ?_⟩
    have differ : rounded total part ≠ count := fun equal => other (by rw [equal])
    have apart : part * twoTo (shiftOf total part) ≤ _ := part_le_gap_add_gap total differ
    have near := roundRatio_near total (part_pos total pos)
    refine even_roundRatio total (part_pos total pos) (Nat.le_antisymm near ?_)
    unfold rounded at *
    omega

/-! ### The end of the range -/

/-- The midpoint behind the greatest finite number, `2 ^ 1024 - 2 ^ 970`. -/
def limit : Nat :=
  (twoTo 54 - 1) * twoTo 970

theorem code_lt_iff :
    code total part < 2047 * twoTo 52 ↔ total < limit * twoTo 1074 * part := by
  unfold code
  have bound : limit * twoTo 1074 * part = (twoTo 54 - 1) * (part * twoTo 2044) := by
    rw [limit, Nat.mul_assoc _ (twoTo 970), ← twoTo_add, Nat.mul_assoc, Nat.mul_comm _ part]
  have half : part * twoTo 2045 = part * twoTo 2044 * 2 := by
    rw [Nat.mul_assoc, ← twoTo_succ]
  have narrow := rounded_le total pos
  rcases Nat.lt_trichotomy (shiftOf total part) 2045 with small | last | large
  · have step : part * twoTo (shiftOf total part) ≤ part * twoTo 2044 :=
      Nat.mul_le_mul_left _ (twoTo_le_twoTo (by omega))
    have less := total_lt total pos
    rw [twoTo_53] at less narrow
    rw [bound, twoTo_52, twoTo_54]
    omega
  · have reached := le_roundRatio_iff total (twoTo 53) (part_pos total pos) rfl
    change _ ≤ rounded total part ↔ _ at reached
    rw [last, half, twoTo_53] at reached
    rw [last, bound, twoTo_52, twoTo_54]
    omega
  · have step : part * twoTo 2046 ≤ part * twoTo (shiftOf total part) :=
      Nat.mul_le_mul_left _ (twoTo_le_twoTo large)
    have quarter : part * twoTo 2046 = part * twoTo 2045 * 2 := by
      rw [Nat.mul_assoc, ← twoTo_succ]
    have full := le_rounded total pos (by omega)
    have reached := le_total total pos (by omega)
    rw [twoTo_52] at full reached
    rw [bound, twoTo_52, twoTo_54]
    omega

end Rounded

/-! ## Ratios -/

/-- A finite number as the rounded form of a ratio. -/
structure Rounds (numerator denominator : Nat) (x : Binary64) : Prop where
  isFinite : x.isFinite = true
  nearest (y : Binary64) : y.isFinite = true ->
    gap (numerator * twoTo 1074) denominator x.units ≤
      gap (numerator * twoTo 1074) denominator y.units
  even (y : Binary64) : y.isFinite = true -> y.units ≠ x.units ->
    gap (numerator * twoTo 1074) denominator y.units =
      gap (numerator * twoTo 1074) denominator x.units -> x.significand % 2 = 0

theorem ofRatio_eq (numerator denominator : Nat) :
    ofRatio numerator denominator =
      if code (numerator * twoTo 1074) denominator < 2047 * twoTo 52 then
        ⟨(code (numerator * twoTo 1074) denominator).toUInt64⟩
      else infinity false := by
  unfold ofRatio code rounded shiftOf
  rfl

theorem ofRatio_lt (numerator denominator : Nat) :
    (ofRatio numerator denominator).bits.toNat < wordBound := by
  rw [ofRatio_eq]
  generalize code (numerator * twoTo 1074) denominator = bits
  split
  · next inside =>
    rw [toNat_toUInt64 inside]
    exact Nat.lt_trans inside (by decide)
  · decide

section OfRatio

variable {numerator denominator : Nat} (pos : 0 < denominator)
include pos

theorem ofRatio_eq_infinity (beyond : limit * denominator ≤ numerator) :
    ofRatio numerator denominator = infinity false := by
  have beyond : limit * twoTo 1074 * denominator ≤ numerator * twoTo 1074 := by
    rw [Nat.mul_right_comm]
    exact Nat.mul_le_mul_right _ beyond
  have outside := mt (code_lt_iff _ pos).mp (Nat.not_lt.mpr beyond)
  rw [ofRatio_eq, if_neg outside]

theorem rounds_ofRatio (inside : numerator < limit * denominator) :
    Rounds numerator denominator (ofRatio numerator denominator) := by
  have inside : numerator * twoTo 1074 < limit * twoTo 1074 * denominator := by
    rw [Nat.mul_right_comm]
    exact Nat.mul_lt_mul_of_pos_right inside (twoTo_pos _)
  have inside := (code_lt_iff _ pos).mpr inside
  rw [ofRatio_eq, if_pos inside]
  obtain ⟨finite, units⟩ := units_carried inside (rounded_le _ pos) (le_rounded _ pos)
  refine ⟨finite, fun y _ => ?_, fun y _ differ tie => ?_⟩
  · rw [code, units]
    exact (gap_rounded _ pos y).1
  · rw [code, units] at differ tie
    have even := (gap_rounded _ pos y).2 differ tie
    have fraction : twoTo 52 = 2 * twoTo 51 := rfl
    rw [significand_mod_two, toNat_toUInt64 inside, code, fraction, Nat.mul_left_comm]
    omega

omit pos in
theorem ofRatio_eq_zero (less : 2 * (numerator * twoTo 1074) < denominator) :
    ofRatio numerator denominator = ⟨0⟩ := by
  have pos : 0 < denominator := Nat.zero_lt_of_lt less
  have unshifted : shiftOf (numerator * twoTo 1074) denominator = 0 := by
    rw [shiftOf, Nat.div_eq_of_lt (by omega)]
    rfl
  have none : rounded (numerator * twoTo 1074) denominator = 0 := by
    have near := roundRatio_near (numerator * twoTo 1074) pos
    refine Nat.eq_zero_of_not_pos fun some => ?_
    rw [rounded, unshifted, show denominator * twoTo 0 = denominator from Nat.mul_one _] at some
    have full := Nat.mul_le_mul_right denominator some
    unfold gap at near
    omega
  rw [ofRatio_eq, code, unshifted, none]
  rfl

end OfRatio

/-! ### Signs -/

section Signed

variable {x : Binary64} (unsigned : x.bits.toNat < wordBound) (negative : Bool)
include unsigned

theorem toNat_withSign :
    (withSign negative x).bits.toNat = (if negative then wordBound else 0) + x.bits.toNat := by
  cases negative with
  | false => exact (Nat.zero_add _).symm
  | true =>
      have sign : UInt64.toNat 0x8000000000000000 = 2 ^ 63 * 1 := rfl
      have joined := Nat.two_pow_add_eq_or_of_lt (i := 63) unsigned 1
      simp only [withSign, if_true, UInt64.toNat_or, sign, Nat.or_comm, ← joined]
      rfl

theorem isNegative_withSign : (withSign negative x).isNegative = negative := by
  rw [isNegative, toNat_withSign unsigned]
  cases negative with
  | false => simpa using unsigned
  | true => simp

theorem exponentField_withSign : (withSign negative x).exponentField = x.exponentField := by
  rw [exponentField, exponentField, toNat_withSign unsigned]
  cases negative with
  | false => simp
  | true =>
      have sign : wordBound = twoTo 11 * twoTo 52 := rfl
      rw [if_pos rfl, sign, Nat.add_comm, Nat.add_mul_div_right _ _ (twoTo_pos 52),
        Nat.add_mod_right]

theorem fractionField_withSign : (withSign negative x).fractionField = x.fractionField := by
  rw [fractionField, fractionField, toNat_withSign unsigned]
  cases negative with
  | false => simp
  | true =>
      have sign : wordBound = twoTo 11 * twoTo 52 := rfl
      rw [if_pos rfl, sign, Nat.add_comm, Nat.add_mul_mod_self_right]

theorem Rounds.withSign {numerator denominator : Nat} (rounds : Rounds numerator denominator x) :
    Rounds numerator denominator (withSign negative x) := by
  have field := exponentField_withSign unsigned negative
  have fraction := fractionField_withSign unsigned negative
  have digits : (Binary64.withSign negative x).significand = x.significand := by
    rw [significand, significand, field, fraction]
  have magnitude : (Binary64.withSign negative x).units = x.units := by
    rw [units_eq, units_eq, digits, field]
  constructor
  · rw [Binary64.isFinite, field]
    exact rounds.isFinite
  · rw [magnitude]
    exact rounds.nearest
  · rw [magnitude, digits]
    exact rounds.even

end Signed

/-! ## Decimals -/

theorem limit_le_tenTo : limit ≤ tenTo 401 := by decide +kernel

theorem twoTo_lt_tenTo : 2 * twoTo 1074 < tenTo 400 := by decide +kernel

theorem lt_tenTo_log2 (digits : Nat) : digits < tenTo (digits.log2 / 3 + 1) := by
  calc digits
      < 2 ^ (digits.log2 + 1) := Nat.lt_log2_self
    _ ≤ 2 ^ (3 * (digits.log2 / 3 + 1)) := Nat.pow_le_pow_right (by decide) (by omega)
    _ = 8 ^ (digits.log2 / 3 + 1) := Nat.pow_mul 2 3 _
    _ ≤ tenTo (digits.log2 / 3 + 1) := Nat.pow_le_pow_left (by decide) _

theorem ofRatio_of_large {digits exponent : Nat} (some : digits ≠ 0) (large : 400 < exponent) :
    ofRatio (digits * tenTo exponent) (tenTo 0) = infinity false := by
  refine ofRatio_eq_infinity (tenTo_pos 0) ?_
  calc limit * tenTo 0
      = limit := by rw [show tenTo 0 = 1 from rfl, Nat.mul_one]
    _ ≤ tenTo 401 := limit_le_tenTo
    _ ≤ tenTo exponent := tenTo_le_tenTo large
    _ ≤ digits * tenTo exponent := Nat.le_mul_of_pos_left _ (Nat.pos_of_ne_zero some)

theorem ofRatio_of_small {digits exponent : Nat} (small : digits.log2 / 3 + 1 + 400 ≤ exponent) :
    ofRatio (digits * tenTo 0) (tenTo exponent) = ⟨0⟩ := by
  refine ofRatio_eq_zero ?_
  calc 2 * (digits * tenTo 0 * twoTo 1074)
      = digits * (2 * twoTo 1074) := by
        rw [show digits * tenTo 0 = digits from Nat.mul_one digits, Nat.mul_left_comm]
    _ < tenTo (digits.log2 / 3 + 1) * tenTo 400 :=
        Nat.mul_lt_mul'' (lt_tenTo_log2 digits) twoTo_lt_tenTo
    _ = tenTo (digits.log2 / 3 + 1 + 400) := (tenTo_add _ 400).symm
    _ ≤ tenTo exponent := tenTo_le_tenTo small

/-- The exponents that are cut off are those of an infinity or a zero. -/
theorem ofDecimal_eq (negative : Bool) (digits : Nat) (exponent : Int) :
    ofDecimal negative digits exponent =
      withSign negative (ofRatio (digits * tenTo exponent.toNat) (tenTo (-exponent).toNat)) := by
  rw [ofDecimal]
  refine congrArg (withSign negative) ?_
  split
  · next none =>
    rw [none, ofRatio_eq_zero]
    rw [Nat.zero_mul, Nat.zero_mul]
    exact tenTo_pos _
  · next some =>
    split
    · next large =>
      rw [show (-exponent).toNat = 0 by omega, ofRatio_of_large some (by omega)]
    · split
      · next small =>
        rw [show exponent.toNat = 0 by omega, ofRatio_of_small (by omega)]
      · rfl

section OfDecimal

variable (negative : Bool) (digits : Nat) (exponent : Int)

theorem ofDecimal_eq_infinity
    (beyond : limit * tenTo (-exponent).toNat ≤ digits * tenTo exponent.toNat) :
    ofDecimal negative digits exponent = infinity negative := by
  rw [ofDecimal_eq, ofRatio_eq_infinity (tenTo_pos _) beyond]
  cases negative <;> rfl

theorem rounds_ofDecimal
    (inside : digits * tenTo exponent.toNat < limit * tenTo (-exponent).toNat) :
    Rounds (digits * tenTo exponent.toNat) (tenTo (-exponent).toNat)
        (ofDecimal negative digits exponent) ∧
      (ofDecimal negative digits exponent).isNegative = negative := by
  rw [ofDecimal_eq]
  exact ⟨(rounds_ofRatio (tenTo_pos _) inside).withSign (ofRatio_lt _ _) negative,
    isNegative_withSign (ofRatio_lt _ _) negative⟩

end OfDecimal

/-! ### Whole numbers -/

section Whole

variable (negative : Bool) {n : Nat}

theorem ofDecimal_zero_eq_infinity (beyond : limit ≤ n) :
    ofDecimal negative n 0 = infinity negative := by
  refine ofDecimal_eq_infinity negative n 0 ?_
  rw [show tenTo (-(0 : Int)).toNat = 1 from rfl, show tenTo (0 : Int).toNat = 1 from rfl,
    Nat.mul_one, Nat.mul_one]
  exact beyond

theorem rounds_ofDecimal_zero (inside : n < limit) :
    Rounds n 1 (ofDecimal negative n 0) ∧ (ofDecimal negative n 0).isNegative = negative := by
  have rounds := rounds_ofDecimal negative n 0
  rw [show tenTo (-(0 : Int)).toNat = 1 from rfl, show tenTo (0 : Int).toNat = 1 from rfl,
    Nat.mul_one, Nat.mul_one] at rounds
  exact rounds inside

end Whole

theorem isFinite_infinity (negative : Bool) : (infinity negative).isFinite = false := by
  cases negative <;> rfl

theorem ofInt?_eq_none_iff {n : Int} : ofInt? n = none ↔ limit ≤ n.natAbs := by
  rw [ofInt?]
  rcases Nat.lt_or_ge n.natAbs limit with inside | beyond
  · simp [(rounds_ofDecimal_zero (n < 0) inside).1.isFinite, inside]
  · simp [ofDecimal_zero_eq_infinity _ beyond, isFinite_infinity, beyond]

/-- An integer below the limit becomes the nearest number of its sign. -/
theorem exists_ofInt? {n : Int} (inside : n.natAbs < limit) :
    ∃ x, ofInt? n = some x ∧ Rounds n.natAbs 1 x ∧ x.isNegative = decide (n < 0) := by
  have rounds := rounds_ofDecimal_zero (n < 0) inside
  refine ⟨_, ?_, rounds⟩
  rw [ofInt?]
  exact if_pos rounds.1.isFinite

end Binary64

end PairedContacts
