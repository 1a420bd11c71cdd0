import PairedContacts.Number.Shortest
import PairedContacts.Proofs.Number.Rounding

/-!
# Decimals that read back

A decimal reads back to a finite number if the number is what it is rounded to, which is so between
the midpoints to the two neighbours of the number.  The digits that are chosen for a number read
back to it.
-/

set_option autoImplicit false

namespace PairedContacts.Binary64

/-! ## Bits -/

/-- The bits of a number without its sign. -/
def codeOf (x : Binary64) : Nat :=
  (x.exponentField - 1) * twoTo 52 + x.significand

theorem codeOf_eq (x : Binary64) : x.codeOf = x.bits.toNat % wordBound := by
  have bound := x.bits.toNat_lt
  have eleven : twoTo 11 = 2048 := rfl
  have word : wordBound = 9223372036854775808 := rfl
  simp only [codeOf, significand, exponentField, fractionField, twoTo_52, eleven, word]
  split <;> omega

theorem toNat_bits (x : Binary64) :
    x.bits.toNat = (if x.isNegative then wordBound else 0) + x.codeOf := by
  have bound := x.bits.toNat_lt
  have word : wordBound = 9223372036854775808 := rfl
  rw [codeOf_eq, isNegative, word]
  simp only [decide_eq_true_eq]
  split <;> omega

theorem codeOf_lt {x : Binary64} (finite : x.isFinite = true) : x.codeOf < 2047 * twoTo 52 := by
  have eleven : twoTo 11 = 2048 := rfl
  simp only [isFinite, bne_iff_ne, exponentField, twoTo_52, eleven] at finite
  simp only [codeOf, significand, exponentField, fractionField, twoTo_52, eleven]
  split <;> omega

theorem withSign_codeOf {x : Binary64} (finite : x.isFinite = true) :
    withSign x.isNegative ⟨x.codeOf.toUInt64⟩ = x := by
  have code : (mk x.codeOf.toUInt64).bits.toNat = x.codeOf := toNat_toUInt64 (codeOf_lt finite)
  have unsigned : (mk x.codeOf.toUInt64).bits.toNat < wordBound := by
    rw [code]
    exact Nat.lt_trans (codeOf_lt finite) (by decide)
  have same : (withSign x.isNegative ⟨x.codeOf.toUInt64⟩).bits.toNat = x.bits.toNat := by
    rw [toNat_withSign unsigned, toNat_bits x, code]
  exact congrArg mk (UInt64.toNat_inj.mp same)

/-! ## Between the midpoints -/

theorem isNarrowBelow_iff (x : Binary64) :
    x.isNarrowBelow = true ↔ 0 < x.exponentField - 1 ∧ x.significand = twoTo 52 := by
  simp only [isNarrowBelow, significand, Bool.and_eq_true, beq_iff_eq, decide_eq_true_eq]
  split <;> omega

theorem le_significand (x : Binary64) (shifted : 0 < x.exponentField - 1) :
    twoTo 52 ≤ x.significand := by
  rw [significand, if_neg (by omega)]
  exact Nat.le_add_right _ _

/-- A total lies between the midpoints to the neighbours of a magnitude, or on one of them if the
significand is even.  The magnitude is counted in parts, and everything in quarters. -/
def StandsFor (total part : Nat) (x : Binary64) : Prop :=
  let step := part * twoTo (x.exponentField - 1)
  let value := 4 * (x.significand * step)
  let below := if x.isNarrowBelow then step else 2 * step
  (value < 4 * total + below ∨ x.significand % 2 = 0 ∧ value = 4 * total + below) ∧
    (4 * total < value + 2 * step ∨ x.significand % 2 = 0 ∧ 4 * total = value + 2 * step)

section StandsFor

variable {total part : Nat} {x : Binary64} (pos : 0 < part)
include pos

/-- The total is that of the significand itself, unless it lies below a power of two. -/
theorem code_of_standsFor_above (stands : StandsFor total part x)
    (above : x.isNarrowBelow = true ->
      x.significand * (part * twoTo (x.exponentField - 1)) ≤ total) :
    code total part = x.codeOf := by
  have narrow := x.isNarrowBelow_iff
  have full := x.le_significand
  have less := x.significand_lt
  have step_pos : 0 < part * twoTo (x.exponentField - 1) := Nat.mul_pos pos (twoTo_pos _)
  unfold StandsFor at stands
  unfold codeOf code rounded
  generalize x.exponentField - 1 = shift at *
  generalize x.significand = significand at *
  obtain ⟨lower, upper⟩ := stands
  have shifted : shiftOf total part = shift := by
    refine shiftOf_eq total pos ?_ fun positive => ?_
    · have room : (significand + 1) * (part * twoTo shift) ≤ twoTo 53 * (part * twoTo shift) :=
        Nat.mul_le_mul_right _ less
      rw [Nat.add_one_mul] at room
      omega
    · by_cases power : significand = twoTo 52
      · rw [← power]
        exact above (narrow.mpr ⟨positive, power⟩)
      · have room : (twoTo 52 + 1) * (part * twoTo shift) ≤ significand * (part * twoTo shift) :=
          Nat.mul_le_mul_right _ (by have := full positive; omega)
        rw [Nat.add_one_mul] at room
        rw [if_neg fun isNarrow => power (narrow.mp isNarrow).2] at lower
        omega
  rw [shifted]
  have near : significand * (part * twoTo shift) ≤ total ∨
      4 * (significand * (part * twoTo shift)) < 4 * total + 2 * (part * twoTo shift) ∨
      significand % 2 = 0 ∧
        4 * (significand * (part * twoTo shift)) = 4 * total + 2 * (part * twoTo shift) := by
    by_cases isNarrow : x.isNarrowBelow = true
    · exact .inl (above isNarrow)
    · rw [if_neg isNarrow] at lower
      exact .inr lower
  refine congrArg _ (roundRatio_eq total step_pos ?_ ?_) <;> unfold gap <;> omega

/-- Below a power of two the midpoint belongs to the next smaller exponent. -/
theorem code_of_standsFor_below (stands : StandsFor total part x) (narrow : x.isNarrowBelow = true)
    (below : total < x.significand * (part * twoTo (x.exponentField - 1))) :
    code total part = x.codeOf := by
  have lower := stands.1.elim Nat.le_of_lt fun tie => Nat.le_of_eq tie.2
  rw [if_pos narrow] at lower
  obtain ⟨positive, power⟩ := x.isNarrowBelow_iff.mp narrow
  obtain ⟨shift, above⟩ : ∃ shift, x.exponentField - 1 = shift + 1 :=
    Nat.exists_eq_add_one.mpr positive
  have step_pos : 0 < part * twoTo shift := Nat.mul_pos pos (twoTo_pos _)
  have double : part * twoTo (shift + 1) = 2 * (part * twoTo shift) := by
    rw [twoTo_succ, ← Nat.mul_assoc, Nat.mul_comm]
  rw [power, above, double, twoTo_52] at lower below
  have shifted : shiftOf total part = shift := by
    refine shiftOf_eq total pos ?_ fun _ => ?_
    · rw [twoTo_53]
      omega
    · rw [twoTo_52]
      omega
  have carried : rounded total part = twoTo 53 := by
    refine Nat.le_antisymm (rounded_le total pos) ?_
    rw [rounded, shifted]
    refine (le_roundRatio_iff total (twoTo 53) step_pos rfl).mpr ?_
    rw [twoTo_53]
    omega
  rw [code, codeOf, shifted, carried, above, power, twoTo_52, twoTo_53]
  omega

theorem code_of_standsFor (stands : StandsFor total part x) : code total part = x.codeOf := by
  by_cases below : x.isNarrowBelow = true ∧
    total < x.significand * (part * twoTo (x.exponentField - 1))
  · exact code_of_standsFor_below pos stands below.1 below.2
  · exact code_of_standsFor_above pos stands fun narrow =>
      Nat.le_of_not_lt fun less => below ⟨narrow, less⟩

/-- A significand that was rounded to fifty-four bits has carried into the exponent. -/
theorem fields_of_code (same : code total part = x.codeOf) :
    x.exponentField - 1 = shiftOf total part ∧ x.significand = rounded total part ∨
      x.exponentField - 1 = shiftOf total part + 1 ∧ x.significand = twoTo 52 ∧
        rounded total part = twoTo 53 := by
  have full := x.le_significand
  have less := x.significand_lt
  have most := rounded_le total pos
  have least := le_rounded total pos
  rw [code, codeOf] at same
  rw [twoTo_52] at *
  rw [twoTo_53] at *
  omega

theorem standsFor_of_code (same : code total part = x.codeOf) : StandsFor total part x := by
  have narrow := x.isNarrowBelow_iff
  have near := roundRatio_near total (part_pos total pos)
  have even := even_roundRatio total (part_pos total pos)
  have step_pos := part_pos total pos
  rw [← rounded] at near even
  unfold StandsFor
  dsimp only
  rcases fields_of_code pos same with ⟨shift, significand⟩ | ⟨shift, significand, carried⟩
  · rw [significand, shift]
    unfold gap at near even
    split
    · next isNarrow =>
      obtain ⟨positive, power⟩ := narrow.mp isNarrow
      rw [shift] at positive
      have reached := le_total total pos positive
      rw [← power, significand] at reached
      omega
    · omega
  · have isNarrow : x.isNarrowBelow = true := narrow.mpr ⟨by omega, significand⟩
    have inside := total_lt total pos
    have double : part * twoTo (shiftOf total part + 1) =
        2 * (part * twoTo (shiftOf total part)) := by
      rw [twoTo_succ, ← Nat.mul_assoc, Nat.mul_comm]
    rw [carried] at near
    rw [twoTo_53] at near inside
    rw [if_pos isNarrow, shift, significand, double]
    have lower : 4 * (twoTo 52 * (2 * (part * twoTo (shiftOf total part)))) ≤
        4 * total + 2 * (part * twoTo (shiftOf total part)) := by
      rw [twoTo_52]
      unfold gap at near
      omega
    refine ⟨(Nat.lt_or_eq_of_le lower).imp_right fun tie => ⟨rfl, tie⟩, .inl ?_⟩
    rw [twoTo_52]
    omega

end StandsFor

/-! ## Reading back -/

theorem compare_of_mul_eq {a b c d m n : Nat} (left : a * m = c * n) (right : b * m = d * n)
    (m_pos : 0 < m) (n_pos : 0 < n) : compare a b = compare c d := by
  have less : a < b ↔ c < d := by
    rw [← Nat.mul_lt_mul_right m_pos, left, right, Nat.mul_lt_mul_right n_pos]
  have more : b < a ↔ d < c := by
    rw [← Nat.mul_lt_mul_right m_pos, left, right, Nat.mul_lt_mul_right n_pos]
  simp only [Nat.compare_eq_ite_lt, less, more]

theorem compareScaled_eq (x : Binary64) (d : Decimal) (quarters : Nat) :
    compareScaled d.digits d.exponent quarters (x.scale - 2) =
      compare (4 * (d.digits * tenTo d.exponent.toNat * twoTo 1074))
        (quarters * (tenTo (-d.exponent).toNat * twoTo (x.exponentField - 1))) := by
  have sum : (x.scale - 2).toNat + (1074 + 2) =
      (-(x.scale - 2)).toNat + (x.exponentField - 1) := by
    unfold scale
    split <;> omega
  have power : twoTo (x.scale - 2).toNat * (twoTo 1074 * 4) =
      twoTo (-(x.scale - 2)).toNat * twoTo (x.exponentField - 1) := by
    rw [← twoTo_add_two, ← twoTo_add, sum, twoTo_add]
  have unit_pos : 0 < twoTo 1074 := twoTo_pos 1074
  generalize twoTo 1074 = unit at *
  refine compare_of_mul_eq (m := unit * 4) (n := twoTo (-(x.scale - 2)).toNat) ?_ ?_
    (by omega) (twoTo_pos _)
  · ac_rfl
  · calc quarters * twoTo (x.scale - 2).toNat * tenTo (-d.exponent).toNat * (unit * 4)
        = quarters * tenTo (-d.exponent).toNat * (twoTo (x.scale - 2).toNat * (unit * 4)) := by
          ac_rfl
      _ = quarters * (tenTo (-d.exponent).toNat * twoTo (x.exponentField - 1)) *
            twoTo (-(x.scale - 2)).toNat := by
          rw [power]
          ac_rfl

theorem readsBack_iff_standsFor (x : Binary64) (d : Decimal) :
    x.readsBack d = true ↔
      StandsFor (d.digits * tenTo d.exponent.toNat * twoTo 1074) (tenTo (-d.exponent).toNat) x := by
  have narrow := x.isNarrowBelow_iff
  simp only [readsBack, compareScaled_eq, StandsFor, Bool.and_eq_true, Bool.or_eq_true, beq_iff_eq,
    Nat.compare_eq_gt, Nat.compare_eq_lt, Nat.compare_eq_eq]
  generalize d.digits * tenTo d.exponent.toNat * twoTo 1074 = total
  generalize tenTo (-d.exponent).toNat * twoTo (x.exponentField - 1) = step
  rw [Nat.add_mul, Nat.mul_assoc 4]
  refine and_congr ?_ Iff.rfl
  rcases Nat.eq_zero_or_pos x.significand with zero | positive
  · have wide : ¬x.isNarrowBelow = true := fun isNarrow => by
      have power := (narrow.mp isNarrow).2
      rw [zero] at power
      exact absurd power (by decide)
    rw [if_neg wide, if_neg wide, zero, Nat.zero_mul]
    omega
  · have room : step ≤ x.significand * step := Nat.le_mul_of_pos_left step positive
    split <;> rw [Nat.sub_mul, Nat.mul_assoc 4] <;> omega

/-- The magnitude that a ratio is rounded to has the bits of the rounded significand. -/
theorem code_of_ofRatio {numerator denominator : Nat} {x : Binary64} (finite : x.isFinite = true)
    (same : (ofRatio numerator denominator).bits.toNat = x.codeOf) :
    code (numerator * twoTo 1074) denominator = x.codeOf := by
  have inside := codeOf_lt finite
  rw [← same]
  rw [← same] at inside
  rw [ofRatio_eq] at *
  generalize code (numerator * twoTo 1074) denominator = bits at *
  by_cases below : bits < 2047 * twoTo 52
  · rw [if_pos below]
    exact (toNat_toUInt64 below).symm
  · rw [if_neg below] at inside
    exact absurd inside (by decide)

theorem readsBack_iff {x : Binary64} (finite : x.isFinite = true) (d : Decimal) :
    x.readsBack d = true ↔ ofDecimal x.isNegative d.digits d.exponent = x := by
  have pos : 0 < tenTo (-d.exponent).toNat := tenTo_pos _
  rw [readsBack_iff_standsFor, ofDecimal_eq]
  constructor
  · intro stands
    rw [ofRatio_eq, code_of_standsFor pos stands, if_pos (codeOf_lt finite), withSign_codeOf finite]
  · intro same
    have bits := toNat_withSign (ofRatio_lt (d.digits * tenTo d.exponent.toNat)
      (tenTo (-d.exponent).toNat)) x.isNegative
    rw [same, toNat_bits x] at bits
    exact standsFor_of_code pos (code_of_ofRatio finite (Nat.add_left_cancel bits).symm)

/-! ## The digits of a number -/

theorem readsBack_of_candidateAt? {x : Binary64} {exponent : Int} {d : Decimal}
    (found : x.candidateAt? exponent = some d) : x.readsBack d = true := by
  rw [candidateAt?.eq_def] at found
  dsimp only at found
  split at found
  · next below above =>
    split at found
    · cases found
      exact below
    · cases found
      exact above
    · split at found <;> cases found <;> assumption
  · cases found
    assumption
  · cases found
    assumption
  · cases found

/-- The exact decimal of a magnitude counts as many units as the magnitude. -/
theorem exactDecimal_units (x : Binary64) :
    x.exactDecimal.digits * tenTo x.exactDecimal.exponent.toNat * twoTo 1074 =
      x.significand *
        (tenTo (-x.exactDecimal.exponent).toNat * twoTo (x.exponentField - 1)) := by
  have whole : (min x.scale 0).toNat = 0 := by omega
  have part : (-min x.scale 0).toNat = (-x.scale).toNat := by omega
  have sum : x.scale.toNat + 1074 = (-x.scale).toNat + (x.exponentField - 1) := by
    unfold scale
    split <;> omega
  have power : twoTo x.scale.toNat * twoTo 1074 =
      twoTo (-x.scale).toNat * twoTo (x.exponentField - 1) := by
    rw [← twoTo_add, sum, twoTo_add]
  have ten : tenTo (-x.scale).toNat = twoTo (-x.scale).toNat * fiveTo (-x.scale).toNat :=
    Nat.mul_pow 2 5 _
  rw [exactDecimal, whole, part, show tenTo 0 = 1 from rfl, Nat.mul_one]
  generalize twoTo 1074 = unit at *
  calc x.significand * twoTo x.scale.toNat * fiveTo (-x.scale).toNat * unit
      = x.significand * (twoTo x.scale.toNat * unit) * fiveTo (-x.scale).toNat := by ac_rfl
    _ = x.significand * (tenTo (-x.scale).toNat * twoTo (x.exponentField - 1)) := by
        rw [power, ten]
        ac_rfl

theorem readsBack_exactDecimal (x : Binary64) : x.readsBack x.exactDecimal = true := by
  have step_pos : 0 < tenTo (-x.exactDecimal.exponent).toNat * twoTo (x.exponentField - 1) :=
    Nat.mul_pos (tenTo_pos _) (twoTo_pos _)
  rw [readsBack_iff_standsFor, exactDecimal_units]
  refine ⟨.inl ?_, .inl ?_⟩
  · split <;> omega
  · omega

/-! ### Zeros at the end -/

theorem shiftOf_mul (total part : Nat) {factor : Nat} (pos : 0 < factor) :
    shiftOf (factor * total) (factor * part) = shiftOf total part := by
  rw [shiftOf, shiftOf, Nat.mul_div_mul_left _ _ pos]

theorem roundRatio_mul (total part : Nat) {factor : Nat} (pos : 0 < factor) :
    roundRatio (factor * total) (factor * part) = roundRatio total part := by
  have less : factor * part < 2 * (factor * (total % part)) ↔ part < 2 * (total % part) := by
    rw [Nat.mul_left_comm, Nat.mul_lt_mul_left pos]
  have same : factor * part = 2 * (factor * (total % part)) ↔ part = 2 * (total % part) := by
    rw [Nat.mul_left_comm, Nat.mul_right_inj (Nat.ne_of_gt pos)]
  simp only [roundRatio, Nat.mul_div_mul_left _ _ pos, Nat.mul_mod_mul_left, less, same, beq_iff_eq,
    Bool.or_eq_true, Bool.and_eq_true, decide_eq_true_eq]

/-- Only the ratio counts. -/
theorem ofRatio_mul (numerator denominator : Nat) {factor : Nat} (pos : 0 < factor) :
    ofRatio (factor * numerator) (factor * denominator) = ofRatio numerator denominator := by
  have same : code (factor * numerator * twoTo 1074) (factor * denominator) =
      code (numerator * twoTo 1074) denominator := by
    rw [Nat.mul_assoc, code, code, rounded, rounded, shiftOf_mul _ _ pos, Nat.mul_assoc factor,
      roundRatio_mul _ _ pos]
  rw [ofRatio_eq, ofRatio_eq, same]

theorem ofDecimal_ten (negative : Bool) (digits : Nat) (exponent : Int) :
    ofDecimal negative (digits * 10) exponent = ofDecimal negative digits (exponent + 1) := by
  rw [ofDecimal_eq, ofDecimal_eq]
  refine congrArg (withSign negative) ?_
  rcases Int.lt_or_le exponent 0 with small | large
  · obtain ⟨count, rest⟩ : ∃ count : Nat, exponent = -(count + 1 : Nat) :=
      ⟨(-exponent - 1).toNat, by omega⟩
    have here : (-exponent).toNat = count + 1 := by omega
    have there : (-(exponent + 1)).toNat = count := by omega
    have none : exponent.toNat = 0 ∧ (exponent + 1).toNat = 0 := by omega
    rw [here, there, none.1, none.2, tenTo_succ, Nat.mul_right_comm, Nat.mul_comm _ 10,
      Nat.mul_comm _ 10]
    exact ofRatio_mul _ _ (by decide)
  · have next : (exponent + 1).toNat = exponent.toNat + 1 := by omega
    have none : (-exponent).toNat = 0 ∧ (-(exponent + 1)).toNat = 0 := by omega
    rw [next, none.1, none.2, tenTo_succ, Nat.mul_assoc, Nat.mul_comm 10]

theorem ofDecimal_stripZeros (negative : Bool) (d : Decimal) :
    ofDecimal negative d.stripZeros.digits d.stripZeros.exponent =
      ofDecimal negative d.digits d.exponent := by
  induction d using Decimal.stripZeros.induct with
  | case1 d left ih =>
      have tens : d.digits / 10 * 10 = d.digits := by omega
      rw [Decimal.stripZeros, dif_pos left, ih, ← ofDecimal_ten, tens]
  | case2 d none => rw [Decimal.stripZeros, dif_neg none]

/-! ### The shortest digits -/

theorem codeOf_of_isZero {x : Binary64} (zero : x.isZero = true) : x.codeOf = 0 := by
  have masked : x.bits.toNat &&& (2 ^ 63 - 1) = 0 := congrArg UInt64.toNat (beq_iff_eq.mp zero)
  rw [codeOf_eq, show wordBound = 2 ^ 63 from rfl, ← Nat.and_two_pow_sub_one_eq_mod, masked]

/-- The digits that are chosen for a finite number read back to it. -/
theorem ofDecimal_shortest {x : Binary64} (finite : x.isFinite = true) :
    ofDecimal x.isNegative x.shortest.digits x.shortest.exponent = x := by
  rw [shortest]
  split
  · next zero =>
    have same := withSign_codeOf finite
    rwa [codeOf_of_isZero zero] at same
  · rw [ofDecimal_stripZeros]
    refine (readsBack_iff finite _).mp ?_
    cases found : (List.range 17).findSome? fun (count : Nat) =>
        x.candidateAt? (x.leadingExponent - count) with
    | none => exact readsBack_exactDecimal x
    | some d =>
        obtain ⟨count, -, candidate⟩ := List.exists_of_findSome?_eq_some found
        exact readsBack_of_candidateAt? candidate

end PairedContacts.Binary64
