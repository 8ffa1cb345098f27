import ApiTools.Decimal.Shortest
import Mathlib.Algebra.Order.Field.Power
import Mathlib.Algebra.Order.Field.Rat
import Mathlib.Data.Rat.Cast.Order
import Mathlib.Tactic.FieldSimp
import Mathlib.Tactic.Linarith
import Mathlib.Tactic.Positivity
import Mathlib.Tactic.Ring

/-!
# Rounding

Every number stands for the reals that round to it, and no real rounds to two numbers. The shortest
decimal of a number is one of its reals.
-/

namespace ApiTools.Binary64

/-! ## Scaled numbers -/

/-- `m * 2 ^ q`. -/
def scaled (m : Nat) (q : Int) : ℚ :=
  m * 2 ^ q

/-- The value of a decimal. -/
def Decimal.value (decimal : Decimal) : ℚ :=
  decimal.digits * 10 ^ decimal.exponent

theorem zpow_mul_pow_toNat (base : ℚ) (positive : 0 < base) (exponent : Int) :
    base ^ exponent * base ^ (-exponent).toNat = base ^ exponent.toNat := by
  rw [← zpow_natCast, ← zpow_natCast, ← zpow_add₀ positive.ne']
  congr 1
  omega

theorem compareScaled_eq (a : Nat) (i : Int) (b : Nat) (j : Int) :
    compareScaled a i b j = compare ((a : ℚ) * 10 ^ i) (scaled b j) := by
  have common : (0 : ℚ) < 10 ^ (-i).toNat * 2 ^ (-j).toNat := by positivity
  have left : ((a * Nat.pow 10 i.toNat * Nat.pow 2 (-j).toNat : ℕ) : ℚ) =
      a * 10 ^ i * (10 ^ (-i).toNat * 2 ^ (-j).toNat) := by
    have ten := zpow_mul_pow_toNat 10 (by norm_num) i
    simp only [Nat.pow_eq, Nat.cast_mul, Nat.cast_pow, Nat.cast_ofNat]
    rw [← ten]
    ring
  have right : ((b * Nat.pow 2 j.toNat * Nat.pow 10 (-i).toNat : ℕ) : ℚ) =
      scaled b j * (10 ^ (-i).toNat * 2 ^ (-j).toNat) := by
    have two := zpow_mul_pow_toNat 2 (by norm_num) j
    simp only [Nat.pow_eq, Nat.cast_mul, Nat.cast_pow, Nat.cast_ofNat, scaled]
    rw [← two]
    ring
  rw [compareScaled]
  rcases lt_trichotomy ((a : ℚ) * 10 ^ i) (scaled b j) with less | equal | greater
  · rw [compare_lt_iff_lt.2 less, compare_lt_iff_lt, ← Nat.cast_lt (α := ℚ), left, right]
    exact mul_lt_mul_of_pos_right less common
  · rw [compare_eq_iff_eq.2 equal, compare_eq_iff_eq, ← Nat.cast_inj (R := ℚ), left, right, equal]
  · rw [compare_gt_iff_gt.2 greater, compare_gt_iff_gt, ← Nat.cast_lt (α := ℚ), left, right]
    exact mul_lt_mul_of_pos_right greater common

/-! ## What reads back as a number -/

/-- A number's neighbour below, in quarters of its unit, is half-way at this place. -/
def lowerQuarters (m : Nat) (q : Int) : Nat :=
  if m = 2 ^ 52 ∧ -1074 < q then 4 * m - 1 else 4 * m - 2

/-- A value lies among the reals that round to `m * 2 ^ q`. -/
structure Rounds (value : ℚ) (m : Nat) (q : Int) : Prop where
  atLeast : scaled (lowerQuarters m q) (q - 2) ≤ value
  atMost : value ≤ scaled (4 * m + 2) (q - 2)
  inside : m % 2 = 1 →
    scaled (lowerQuarters m q) (q - 2) < value ∧ value < scaled (4 * m + 2) (q - 2)

theorem readsBack_eq (m : Nat) (q : Int) (decimal : Decimal) :
    readsBack m q decimal =
      ((compare decimal.value (scaled (lowerQuarters m q) (q - 2)) == .gt ||
          (m % 2 == 0 && compare decimal.value (scaled (lowerQuarters m q) (q - 2)) == .eq)) &&
        (compare decimal.value (scaled (4 * m + 2) (q - 2)) == .lt ||
          (m % 2 == 0 && compare decimal.value (scaled (4 * m + 2) (q - 2)) == .eq))) := by
  rw [readsBack, compareScaled_eq, compareScaled_eq]
  rfl

theorem rounds_of_readsBack {m : Nat} {q : Int} {decimal : Decimal}
    (reads : readsBack m q decimal = true) : Rounds decimal.value m q := by
  rw [readsBack_eq] at reads
  simp only [Bool.and_eq_true, Bool.or_eq_true, beq_iff_eq, compare_gt_iff_gt, compare_lt_iff_lt,
    compare_eq_iff_eq] at reads
  obtain ⟨above, below⟩ := reads
  refine ⟨?_, ?_, fun odd => ?_⟩
  · rcases above with greater | ⟨-, equal⟩
    · exact greater.le
    · exact equal.ge
  · rcases below with less | ⟨-, equal⟩
    · exact less.le
    · exact equal.le
  · rcases above with greater | ⟨even, -⟩
    · rcases below with less | ⟨even, -⟩
      · exact ⟨greater, less⟩
      · omega
    · omega

/-! ## One number for each value -/

/-- The parts are those of a number: they say how fine its unit is, as fine as its size and the
format allow. -/
structure IsNormal (m : Nat) (q : Int) : Prop where
  small : m < 2 ^ 53
  atLeast : -1074 ≤ q
  full : -1074 < q → 2 ^ 52 ≤ m

theorem scaled_le {a b : Nat} (le : a ≤ b) (q : Int) : scaled a q ≤ scaled b q := by
  have cast : (a : ℚ) ≤ b := Nat.cast_le.2 le
  exact mul_le_mul_of_nonneg_right cast (by positivity)

theorem scaled_lt {a b : Nat} (lt : a < b) (q : Int) : scaled a q < scaled b q := by
  have cast : (a : ℚ) < b := Nat.cast_lt.2 lt
  exact mul_lt_mul_of_pos_right cast (by positivity)

theorem scaled_double (a : Nat) (q : Int) : scaled (2 * a) q = scaled a (q + 1) := by
  rw [scaled, scaled, zpow_add₀ two_ne_zero, Nat.cast_mul, Nat.cast_ofNat, zpow_one]
  ring

/-- In a finer unit there are at least twice as many. -/
theorem scaled_double_le (a : Nat) {q r : Int} (finer : q < r) :
    scaled (2 * a) q ≤ scaled a r := by
  have power : (2 : ℚ) ^ (q + 1) ≤ 2 ^ r := zpow_le_zpow_right₀ one_le_two finer
  rw [scaled_double]
  exact mul_le_mul_of_nonneg_left power (by positivity)

variable {value : ℚ} {m n : Nat} {q r : Int}

theorem Rounds.unit_not_lt (rounds : Rounds value m q) (others : Rounds value n r)
    (normal : IsNormal m q) (otherNormal : IsNormal n r) : ¬ q < r := by
  intro finer
  -- In the finer unit, one number ends below 2 ^ 53 and the other starts there. Their reals have at
  -- most the half-way point in common, which an odd number does not have.
  have coarse : -1074 < r := lt_of_le_of_lt normal.atLeast finer
  have full := otherNormal.full coarse
  have small := normal.small
  have lower : 2 ^ 54 - 1 ≤ lowerQuarters n r := by
    unfold lowerQuarters
    split <;> omega
  have double := scaled_double_le (lowerQuarters n r) (q := q - 2) (r := r - 2) (by omega)
  have below := others.atLeast
  rcases Nat.mod_two_eq_zero_or_one m with even | odd
  · have apart : 4 * m + 2 < 2 * lowerQuarters n r := by omega
    have above := rounds.atMost
    have strict := scaled_lt apart (q - 2)
    linarith
  · have near : 4 * m + 2 ≤ 2 * lowerQuarters n r := by omega
    have above := (rounds.inside odd).2
    have bound := scaled_le near (q - 2)
    linarith

theorem Rounds.not_lt (rounds : Rounds value m q) (others : Rounds value n q) : ¬ m < n := by
  intro less
  have lower : 4 * n - 2 ≤ lowerQuarters n q := by
    unfold lowerQuarters
    split <;> omega
  have near : 4 * m + 2 ≤ lowerQuarters n q := by omega
  have bound := scaled_le near (q - 2)
  rcases Nat.mod_two_eq_zero_or_one m with even | odd
  · rcases Nat.mod_two_eq_zero_or_one n with otherEven | otherOdd
    · have apart : 4 * m + 2 < lowerQuarters n q := by omega
      have strict := scaled_lt apart (q - 2)
      have above := rounds.atMost
      have below := others.atLeast
      linarith
    · have below := (others.inside otherOdd).1
      have above := rounds.atMost
      linarith
  · have above := (rounds.inside odd).2
    have below := others.atLeast
    linarith

/-- A value rounds to one number. -/
theorem Rounds.unique (rounds : Rounds value m q) (others : Rounds value n r)
    (normal : IsNormal m q) (otherNormal : IsNormal n r) : m = n ∧ q = r := by
  have sameUnit : q = r := by
    have notFiner := rounds.unit_not_lt others normal otherNormal
    have notCoarser := others.unit_not_lt rounds otherNormal normal
    omega
  subst sameUnit
  have notLess := rounds.not_lt others
  have notGreater := others.not_lt rounds
  exact ⟨by omega, rfl⟩

/-! ## The shortest decimal reads back -/

theorem readsBack_of_nearestOnGrid? {e : Int} {decimal : Decimal}
    (found : nearestOnGrid? m q e = some decimal) : readsBack m q decimal = true := by
  unfold nearestOnGrid? at found
  dsimp only at found
  split at found
  · cases found
  · next reads _ => exact Option.some.inj found ▸ reads
  · next _ reads => exact Option.some.inj found ▸ reads
  · next lowReads highReads =>
      split at found
      · exact Option.some.inj found ▸ lowReads
      · exact Option.some.inj found ▸ highReads
      · rw [← Option.some.inj found]
        rcases Nat.mod_two_eq_zero_or_one (gridFloor m q e) with even | odd
        · rw [even]
          exact lowReads
        · rw [odd]
          exact highReads

theorem scaled_quarters (m : Nat) (q : Int) : scaled (4 * m) (q - 2) = scaled m q := by
  rw [scaled, scaled, zpow_sub₀ two_ne_zero, Nat.cast_mul]
  norm_num
  ring

/-- The number itself is among the values that round to it. -/
theorem readsBack_of_value_eq {decimal : Decimal} (positive : 0 < m)
    (exact : decimal.value = scaled m q) : readsBack m q decimal = true := by
  have lower : lowerQuarters m q < 4 * m := by
    unfold lowerQuarters
    split <;> omega
  have upper : 4 * m < 4 * m + 2 := by omega
  have above := scaled_lt lower (q - 2)
  have below := scaled_lt upper (q - 2)
  rw [scaled_quarters, ← exact] at above below
  rw [readsBack_eq, compare_gt_iff_gt.2 above, compare_lt_iff_lt.2 below]
  rfl

theorem readsBack_shortest (positive : 0 < m) : readsBack m q (shortest m q) = true := by
  unfold shortest
  dsimp only
  cases found : (List.range 17).findSome? fun (count : Nat) =>
      nearestOnGrid? m q (decimalScale m q - 1 - count) with
  | some decimal =>
      obtain ⟨count, -, onGrid⟩ := List.exists_of_findSome?_eq_some found
      exact readsBack_of_nearestOnGrid? onGrid
  | none =>
      apply readsBack_of_value_eq positive
      rw [Option.getD_none]
      split
      · next notNegative =>
          obtain ⟨size, rfl⟩ := Int.eq_ofNat_of_zero_le notNegative
          simp [Decimal.value, scaled]
      · next negative =>
          obtain ⟨size, isNegative⟩ := Int.eq_ofNat_of_zero_le (a := -q) (by omega)
          obtain rfl : q = -size := by omega
          have inFives : (2 : ℚ) ^ size * 5 ^ size = 10 ^ size := by
            rw [← mul_pow]
            norm_num
          simp only [Decimal.value, scaled, Nat.pow_eq, neg_neg, Int.toNat_natCast, Nat.cast_mul,
            Nat.cast_pow, Nat.cast_ofNat, zpow_neg, zpow_natCast, ← inFives]
          field_simp

/-! ## Quotients -/

theorem roundDiv_le {num den bound : Nat} (below : num < bound * den) :
    roundDiv num den ≤ bound := by
  have quotient : num / den < bound := Nat.div_lt_of_lt_mul (by rwa [Nat.mul_comm])
  unfold roundDiv
  dsimp only
  split <;> omega

theorem le_roundDiv {num den bound : Nat} (positive : 0 < den) (above : bound * den ≤ num) :
    bound ≤ roundDiv num den := by
  have quotient : bound ≤ num / den := (Nat.le_div_iff_mul_le positive).2 above
  unfold roundDiv
  dsimp only
  split <;> omega

theorem mul_pow_lt_iff (num den count : Nat) (q : Int) :
    num * Nat.pow 2 (-q).toNat < count * (den * Nat.pow 2 q.toNat) ↔
      (num : ℚ) < scaled (count * den) q := by
  have positive : (0 : ℚ) < 2 ^ (-q).toNat := by positivity
  have right : ((count * (den * Nat.pow 2 q.toNat) : ℕ) : ℚ) =
      scaled (count * den) q * 2 ^ (-q).toNat := by
    rw [scaled, mul_assoc, zpow_mul_pow_toNat 2 (by norm_num) q]
    simp only [Nat.pow_eq, Nat.cast_mul, Nat.cast_pow, Nat.cast_ofNat]
    ring
  have left : ((num * Nat.pow 2 (-q).toNat : ℕ) : ℚ) = num * 2 ^ (-q).toNat := by
    simp only [Nat.pow_eq, Nat.cast_mul, Nat.cast_pow, Nat.cast_ofNat]
  rw [← Nat.cast_lt (α := ℚ), left, right]
  exact mul_lt_mul_iff_left₀ positive

theorem scaled_pow (a : Nat) (q : Int) : scaled (2 ^ a) q = 2 ^ (a + q) := by
  rw [scaled, zpow_add₀ two_ne_zero, zpow_natCast, Nat.cast_pow, Nat.cast_ofNat]

/-- The quotient has 53 bits in the unit that is chosen for it, if the format has such a fine
one. -/
theorem exists_unitOf_eq {num den : Nat} (filled : num ≠ 0) (positive : den ≠ 0) :
    ∃ exponent, unitOf num den = max (-1074) exponent ∧
      scaled (2 ^ 52 * den) exponent ≤ num ∧ (num : ℚ) < scaled (2 ^ 53 * den) exponent := by
  have numAtLeast : scaled (2 ^ num.log2) 0 ≤ num := by
    rw [scaled, zpow_zero, mul_one]
    exact Nat.cast_le.2 (Nat.log2_self_le filled)
  have numBelow : (num : ℚ) < scaled (2 ^ (num.log2 + 1)) 0 := by
    rw [scaled, zpow_zero, mul_one]
    exact Nat.cast_lt.2 Nat.lt_log2_self
  have denAtLeast : 2 ^ den.log2 ≤ den := Nat.log2_self_le positive
  have denBelow : den < 2 ^ (den.log2 + 1) := Nat.lt_log2_self
  rw [scaled_pow] at numAtLeast numBelow
  unfold unitOf
  dsimp only
  split
  · next below =>
      refine ⟨_, rfl, ?_, (mul_pow_lt_iff _ _ _ _).1 below⟩
      have fits : 2 ^ 52 * den ≤ 2 ^ (52 + (den.log2 + 1)) := by
        rw [pow_add]
        exact Nat.mul_le_mul_left _ denBelow.le
      have place : ((52 + (den.log2 + 1) : ℕ) : Int) + ((num.log2 : Int) - den.log2 - 53) =
          num.log2 + 0 := by
        omega
      refine (scaled_le fits _).trans ?_
      rw [scaled_pow, place]
      exact numAtLeast
  · next notBelow =>
      refine ⟨_, rfl, ?_, ?_⟩
      · have atLeast := not_lt.1 (mt (mul_pow_lt_iff _ _ _ _).2 notBelow)
        have isDouble : Nat.pow 2 53 * den = 2 * (2 ^ 52 * den) := by
          rw [← mul_assoc]
          rfl
        rw [isDouble, scaled_double] at atLeast
        exact atLeast
      · have fits : 2 ^ (53 + den.log2) ≤ 2 ^ 53 * den := by
          rw [pow_add]
          exact Nat.mul_le_mul_left _ denAtLeast
        have place : ((53 + den.log2 : ℕ) : Int) + ((num.log2 : Int) - den.log2 - 53 + 1) =
            (num.log2 + 1 : ℕ) + 0 := by
          omega
        refine lt_of_lt_of_le ?_ (scaled_le fits _)
        rw [scaled_pow, place]
        exact numBelow

/-- The parts that a quotient is rounded to, before they are found to be in range. -/
def rounded (num den : Nat) : Nat × Int :=
  if roundAt num den (unitOf num den) = 2 ^ 53 then (2 ^ 52, unitOf num den + 1)
  else (roundAt num den (unitOf num den), unitOf num den)

theorem ofRatio_eq {num : Nat} (filled : num ≠ 0) (negative : Bool) (den : Nat) :
    ofRatio negative num den =
      if 971 < (rounded num den).2 then .infinite negative
      else .finite negative (rounded num den).1 (rounded num den).2 := by
  rw [ofRatio, if_neg filled]
  rfl

/-- In a unit that is not too fine the quotient has at most 53 bits. -/
theorem lt_scaled_unitOf {num den : Nat} (filled : num ≠ 0) (positive : den ≠ 0) :
    (num : ℚ) < scaled (2 ^ 53 * den) (unitOf num den) := by
  obtain ⟨exponent, isUnit, -, below⟩ := exists_unitOf_eq filled positive
  have coarser : exponent ≤ unitOf num den := isUnit ▸ le_max_right _ _
  have power : (2 : ℚ) ^ exponent ≤ 2 ^ unitOf num den := zpow_le_zpow_right₀ one_le_two coarser
  exact below.trans_le (mul_le_mul_of_nonneg_left power (by positivity))

/-- In a unit that could be finer the quotient has at least 53 bits. -/
theorem scaled_unitOf_le {num den : Nat} (filled : num ≠ 0) (positive : den ≠ 0)
    (fine : -1074 < unitOf num den) : scaled (2 ^ 52 * den) (unitOf num den) ≤ num := by
  obtain ⟨exponent, isUnit, atLeast, -⟩ := exists_unitOf_eq filled positive
  have isExponent : unitOf num den = exponent := by omega
  rw [isExponent]
  exact atLeast

theorem le_unitOf (num den : Nat) : -1074 ≤ unitOf num den :=
  le_max_left _ _

theorem isNormal_rounded {num den : Nat} (filled : num ≠ 0) (positive : den ≠ 0) :
    IsNormal (rounded num den).1 (rounded num den).2 := by
  have small : roundAt num den (unitOf num den) ≤ 2 ^ 53 :=
    roundDiv_le ((mul_pow_lt_iff _ _ _ _).2 (lt_scaled_unitOf filled positive))
  have full : -1074 < unitOf num den → 2 ^ 52 ≤ roundAt num den (unitOf num den) := by
    intro fine
    have notBelow := mt (mul_pow_lt_iff num den (2 ^ 52) (unitOf num den)).1
      (not_lt.2 (scaled_unitOf_le filled positive fine))
    have parts : 0 < den * Nat.pow 2 (unitOf num den).toNat :=
      Nat.mul_pos (Nat.pos_of_ne_zero positive) (Nat.pow_pos (by decide))
    exact le_roundDiv parts (not_lt.1 notBelow)
  have inFormat := le_unitOf num den
  unfold rounded
  split
  · have half : 2 ^ 52 < 2 ^ 53 := by decide
    exact ⟨half, inFormat.trans (Int.le_add_one le_rfl), fun _ => le_rfl⟩
  · next notFull => exact ⟨lt_of_le_of_ne small notFull, inFormat, full⟩

/-- Rounding a quotient gives a number in its proper form. -/
theorem isNormal_of_ofRatio {negative sign : Bool} {num den m : Nat} {q : Int}
    (positive : den ≠ 0) (rounds : ofRatio negative num den = .finite sign m q) :
    IsNormal m q := by
  by_cases isZero : num = 0
  · rw [ofRatio, if_pos isZero] at rounds
    obtain ⟨-, rfl, rfl⟩ := Binary64.finite.inj rounds
    exact ⟨by decide, le_rfl, fun fine => absurd fine (lt_irrefl _)⟩
  · rw [ofRatio_eq isZero] at rounds
    split at rounds
    · cases rounds
    · obtain ⟨-, rfl, rfl⟩ := Binary64.finite.inj rounds
      exact isNormal_rounded isZero positive

end ApiTools.Binary64
