import ApiTools.Proofs.Decimal.Text

/-!
# The nearest number

A decimal is read as the number nearest to it. So the text of a number, which denotes one of the
reals that round to it, is read as that number again, whatever decimal is written for it.
-/

namespace ApiTools.Binary64

variable {m num den : Nat} {q : Int}

/-! ## Rounded quotients -/

/-- A quotient lies within half a unit of the natural that it rounds to, and strictly within it if
that natural is odd. -/
structure IsWithinHalf (num den rounded : Nat) : Prop where
  above : 2 * (rounded * den) ≤ 2 * num + den
  below : 2 * num ≤ 2 * (rounded * den) + den
  strictly : rounded % 2 = 1 →
    2 * (rounded * den) < 2 * num + den ∧ 2 * num < 2 * (rounded * den) + den

theorem isWithinHalf_roundDiv (num : Nat) {den : Nat} (positive : 0 < den) :
    IsWithinHalf num den (roundDiv num den) := by
  have division := Nat.div_add_mod' num den
  have small := Nat.mod_lt num positive
  have next := Nat.add_one_mul (num / den) den
  unfold roundDiv
  dsimp only
  split
  · next less =>
      have remains := Nat.compare_eq_lt.1 less
      constructor <;> omega
  · next greater =>
      have remains := Nat.compare_eq_gt.1 greater
      constructor <;> omega
  · next equal =>
      have remains := Nat.compare_eq_eq.1 equal
      rcases Nat.mod_two_eq_zero_or_one (num / den) with even | odd
      · rw [even, Nat.add_zero]
        constructor <;> omega
      · rw [odd]
        constructor <;> omega

/-- A quotient, compared with quarters of a unit. -/
theorem compare_quarters (num : Nat) {den : Nat} (positive : 0 < den) (count : Nat) (q : Int) :
    compare (scaled count (q - 2)) ((num : ℚ) / den) =
      compare (count * (den * Nat.pow 2 q.toNat)) (4 * (num * Nat.pow 2 (-q).toNat)) := by
  have common : (0 : ℚ) < 4 * 2 ^ (-q).toNat := by positivity
  have denPositive : (0 : ℚ) < den := Nat.cast_pos.2 positive
  have left : ((count * (den * Nat.pow 2 q.toNat) : ℕ) : ℚ) =
      scaled count (q - 2) * den * (4 * 2 ^ (-q).toNat) := by
    have two := zpow_mul_pow_toNat 2 (by norm_num) q
    simp only [Nat.pow_eq, Nat.cast_mul, Nat.cast_pow, Nat.cast_ofNat, scaled]
    rw [← two, zpow_sub₀ two_ne_zero]
    norm_num
    ring
  have right : ((4 * (num * Nat.pow 2 (-q).toNat) : ℕ) : ℚ) =
      num * (4 * 2 ^ (-q).toNat) := by
    simp only [Nat.pow_eq, Nat.cast_mul, Nat.cast_pow, Nat.cast_ofNat]
    ring
  rcases lt_trichotomy (scaled count (q - 2)) ((num : ℚ) / den) with less | equal | greater
  · rw [compare_lt_iff_lt.2 less, eq_comm, compare_lt_iff_lt, ← Nat.cast_lt (α := ℚ), left, right]
    exact mul_lt_mul_of_pos_right ((lt_div_iff₀ denPositive).1 less) common
  · rw [compare_eq_iff_eq.2 equal, eq_comm, compare_eq_iff_eq, ← Nat.cast_inj (R := ℚ), left,
      right, (eq_div_iff denPositive.ne').1 equal]
  · rw [compare_gt_iff_gt.2 greater, eq_comm, compare_gt_iff_gt, ← Nat.cast_lt (α := ℚ), left,
      right]
    exact mul_lt_mul_of_pos_right ((div_lt_iff₀ denPositive).1 greater) common

section

variable (num) {den : Nat} (positive : 0 < den) (count : Nat) (q : Int)

include positive

theorem scaled_lt_div_iff : scaled count (q - 2) < (num : ℚ) / den ↔
    count * (den * Nat.pow 2 q.toNat) < 4 * (num * Nat.pow 2 (-q).toNat) := by
  rw [← compare_lt_iff_lt, compare_quarters num positive, compare_lt_iff_lt]

theorem div_lt_scaled_iff : (num : ℚ) / den < scaled count (q - 2) ↔
    4 * (num * Nat.pow 2 (-q).toNat) < count * (den * Nat.pow 2 q.toNat) := by
  have above := compare_gt_iff_gt (a := scaled count (q - 2)) (b := (num : ℚ) / den)
  rw [compare_quarters num positive, compare_gt_iff_gt] at above
  exact above.symm

end

theorem lowerQuarters_le (m : Nat) (q : Int) : 4 * m - 2 ≤ lowerQuarters m q := by
  unfold lowerQuarters
  split <;> omega

/-- The parts that a quotient is rounded to are those of the nearest number. -/
theorem rounds_rounded (filled : num ≠ 0) (positive : 0 < den) :
    Rounds ((num : ℚ) / den) (rounded num den).1 (rounded num den).2 := by
  have inUnit (count : Nat) := scaled_lt_div_iff num positive count (unitOf num den)
  have overUnit (count : Nat) := div_lt_scaled_iff num positive count (unitOf num den)
  have fine := scaled_unitOf_le filled positive.ne'
  have enough := not_congr (mul_pow_lt_iff num den (2 ^ 52) (unitOf num den))
  have scale : 0 < den * Nat.pow 2 (unitOf num den).toNat :=
    Nat.mul_pos positive (Nat.pow_pos (by decide))
  have half : IsWithinHalf (num * Nat.pow 2 (-unitOf num den).toNat)
      (den * Nat.pow 2 (unitOf num den).toNat) (roundAt num den (unitOf num den)) :=
    isWithinHalf_roundDiv _ scale
  have inFormat := le_unitOf num den
  unfold rounded
  generalize unitOf num den = q at *
  generalize roundAt num den q = m at *
  generalize den * Nat.pow 2 q.toNat = unit at *
  generalize num * Nat.pow 2 (-q).toNat = units at *
  obtain ⟨above, below, strictly⟩ := half
  have quartersAbove : (4 * m + 2) * unit = 4 * (m * unit) + 2 * unit := by ring
  have quartersBelow : (4 * m - 2) * unit = 4 * (m * unit) - 2 * unit := by
    rw [Nat.sub_mul, Nat.mul_assoc]
  split
  · next isFull =>
      -- The next binade starts here, and its unit is twice as large.
      subst isFull
      have coarse : -1074 < q + 1 := by omega
      have lower : lowerQuarters (2 ^ 52) (q + 1) = 2 ^ 54 - 1 := if_pos ⟨rfl, coarse⟩
      have inHalves (count : Nat) : scaled count (q + 1 - 2) = scaled (2 * count) (q - 2) := by
        rw [scaled_double]
        congr 1
        omega
      rw [not_lt] at *
      constructor
      · dsimp only
        rw [lower, inHalves, ← not_lt, overUnit]
        omega
      · dsimp only
        rw [inHalves, ← not_lt, inUnit]
        omega
      · have even : ¬2 ^ 52 % 2 = 1 := by decide
        exact fun odd => absurd odd even
  · next notFull =>
      constructor
      · dsimp only
        rw [← not_lt, overUnit]
        unfold lowerQuarters
        split
        · next starts =>
            have atLeast := enough.2 (not_lt.2 (fine starts.2))
            have atStart : (4 * m - 1) * unit = 4 * (2 ^ 52 * unit) - unit := by
              rw [starts.1, Nat.sub_mul, Nat.mul_assoc, Nat.one_mul]
            omega
        · omega
      · dsimp only
        rw [← not_lt, inUnit]
        omega
      · intro odd
        have isOdd : m % 2 = 1 := odd
        have noStart : ¬(m = 2 ^ 52 ∧ -1074 < q) := by omega
        have oneUnit : unit ≤ m * unit := Nat.le_mul_of_pos_left unit (by omega)
        obtain ⟨farAbove, farBelow⟩ := strictly isOdd
        dsimp only
        rw [lowerQuarters, if_neg noStart, inUnit, overUnit]
        omega

/-! ## Decimals -/

variable {value : ℚ}

/-- A quotient is rounded to the number that it rounds to, if the format has it. -/
theorem ofRatio_of_rounds (filled : num ≠ 0) (positive : 0 < den) (normal : IsNormal m q)
    (inRange : q ≤ 971) (rounds : Rounds ((num : ℚ) / den) m q) (negative : Bool) :
    ofRatio negative num den = .finite negative m q := by
  obtain ⟨sameDigits, sameUnit⟩ := (rounds_rounded filled positive).unique rounds
    (isNormal_rounded filled positive.ne') normal
  rw [ofRatio_eq filled, sameDigits, sameUnit, if_neg (not_lt.2 inRange)]

/-- What rounds to a positive number is not too small. -/
theorem Rounds.le_value (positive : 0 < m) (normal : IsNormal m q) (rounds : Rounds value m q) :
    (2 : ℚ) ^ (-1075 : Int) ≤ value := by
  have two : 2 ^ 1 ≤ lowerQuarters m q := by
    have atLeast := lowerQuarters_le m q
    omega
  have finest : (2 : ℚ) ^ (-1075 : Int) ≤ 2 ^ ((1 : Nat) + (q - 2)) :=
    zpow_le_zpow_right₀ one_le_two (by have atLeast := normal.atLeast; omega)
  calc
    (2 : ℚ) ^ (-1075 : Int) ≤ 2 ^ ((1 : Nat) + (q - 2)) := finest
    _ = scaled (2 ^ 1) (q - 2) := (scaled_pow 1 (q - 2)).symm
    _ ≤ scaled (lowerQuarters m q) (q - 2) := scaled_le two (q - 2)
    _ ≤ value := rounds.atLeast

/-- What rounds to a number of the format is not too large. -/
theorem Rounds.value_le (normal : IsNormal m q) (inRange : q ≤ 971) (rounds : Rounds value m q) :
    value ≤ (2 : ℚ) ^ (1024 : Int) := by
  have most : 4 * m + 2 ≤ 2 ^ 55 := by
    have small := normal.small
    omega
  calc
    value ≤ scaled (4 * m + 2) (q - 2) := rounds.atMost
    _ ≤ scaled (2 ^ 55) (q - 2) := scaled_le most (q - 2)
    _ = 2 ^ ((55 : Nat) + (q - 2)) := scaled_pow 55 (q - 2)
    _ ≤ (2 : ℚ) ^ (1024 : Int) := zpow_le_zpow_right₀ one_le_two (by omega)

/-- The binary logarithm of the digits bounds a decimal from above. -/
theorem Decimal.value_lt (decimal : Decimal) :
    decimal.value < 10 ^ (decimal.exponent + (decimal.digits.log2 / 3 : Nat) + 1) := by
  have digits : decimal.digits < 10 ^ (decimal.digits.log2 / 3 + 1) := by
    calc
      decimal.digits < 2 ^ (decimal.digits.log2 + 1) := Nat.lt_log2_self
      _ ≤ 2 ^ (3 * (decimal.digits.log2 / 3 + 1)) :=
        Nat.pow_le_pow_right (by decide) (by omega)
      _ = 8 ^ (decimal.digits.log2 / 3 + 1) := by rw [Nat.pow_mul]
      _ ≤ 10 ^ (decimal.digits.log2 / 3 + 1) := Nat.pow_le_pow_left (by decide) _
  have cast : (decimal.digits : ℚ) < 10 ^ (decimal.digits.log2 / 3 + 1) := by exact_mod_cast digits
  have power : (10 : ℚ) ^ (decimal.exponent + (decimal.digits.log2 / 3 : Nat) + 1) =
      10 ^ (decimal.digits.log2 / 3 + 1) * 10 ^ decimal.exponent := by
    rw [← zpow_natCast, ← zpow_add₀ (by norm_num)]
    congr 1
    push_cast
    ring
  rw [Decimal.value, power]
  exact mul_lt_mul_of_pos_right cast (by positivity)

/-- The binary logarithm of the digits bounds a decimal from below. -/
theorem Decimal.le_value (decimal : Decimal) (filled : decimal.digits ≠ 0) :
    10 ^ (decimal.exponent + (decimal.digits.log2 / 4 : Nat)) ≤ decimal.value := by
  have digits : 10 ^ (decimal.digits.log2 / 4) ≤ decimal.digits := by
    calc
      10 ^ (decimal.digits.log2 / 4) ≤ 16 ^ (decimal.digits.log2 / 4) :=
        Nat.pow_le_pow_left (by decide) _
      _ = 2 ^ (4 * (decimal.digits.log2 / 4)) := by rw [Nat.pow_mul]
      _ ≤ 2 ^ decimal.digits.log2 := Nat.pow_le_pow_right (by decide) (by omega)
      _ ≤ decimal.digits := Nat.log2_self_le filled
  have cast : (10 : ℚ) ^ (decimal.digits.log2 / 4) ≤ decimal.digits := by exact_mod_cast digits
  have power : (10 : ℚ) ^ (decimal.exponent + (decimal.digits.log2 / 4 : Nat)) =
      10 ^ (decimal.digits.log2 / 4) * 10 ^ decimal.exponent := by
    rw [← zpow_natCast, ← zpow_add₀ (by norm_num)]
    congr 1
    ring
  rw [Decimal.value, power]
  exact mul_le_mul_of_nonneg_right cast (by positivity)

theorem Decimal.value_eq_div (decimal : Decimal) :
    decimal.value = ((decimal.digits * Nat.pow 10 decimal.exponent.toNat : ℕ) : ℚ) /
      (Nat.pow 10 (-decimal.exponent).toNat : ℕ) := by
  have ten := zpow_mul_pow_toNat 10 (by norm_num) decimal.exponent
  have positive : (10 : ℚ) ^ (-decimal.exponent).toNat ≠ 0 := by positivity
  rw [Decimal.value, eq_div_iff]
  · simp only [Nat.pow_eq, Nat.cast_mul, Nat.cast_pow, Nat.cast_ofNat]
    rw [← ten]
    ring
  · simp only [Nat.pow_eq, Nat.cast_pow, Nat.cast_ofNat]
    exact positive

/-- Every decimal that rounds to a positive number of the format is read as that number. -/
theorem ofDecimal_of_rounds {decimal : Decimal} (positive : 0 < m) (normal : IsNormal m q)
    (inRange : q ≤ 971) (rounds : Rounds decimal.value m q) (negative : Bool) :
    ofDecimal negative decimal.digits decimal.exponent = .finite negative m q := by
  have filled : decimal.digits ≠ 0 :=
    (value_pos_iff.1 (value_pos_of_rounds positive rounds)).ne'
  have notTiny : ¬decimal.exponent + (decimal.digits.log2 / 3 : Nat) < -340 := by
    intro tiny
    have below : decimal.value < (10 : ℚ) ^ (-340 : Int) :=
      decimal.value_lt.trans_le (zpow_le_zpow_right₀ (by norm_num) (by omega))
    have powers : 2 ^ 1075 ≤ 10 ^ 340 := by decide +kernel
    have cast : (2 : ℚ) ^ 1075 ≤ 10 ^ 340 := by exact_mod_cast powers
    have apart : (10 : ℚ) ^ (-340 : Int) ≤ 2 ^ (-1075 : Int) := by
      rw [zpow_neg, zpow_neg]
      exact inv_anti₀ (by positivity) cast
    exact absurd (below.trans_le apart) (not_lt.2 (rounds.le_value positive normal))
  have notHuge : ¬310 < decimal.exponent + (decimal.digits.log2 / 4 : Nat) := by
    intro huge
    have above : (10 : ℚ) ^ (311 : Int) ≤ decimal.value :=
      (zpow_le_zpow_right₀ (by norm_num) (by omega)).trans (decimal.le_value filled)
    have powers : 2 ^ 1024 < 10 ^ 311 := by decide +kernel
    have apart : (2 : ℚ) ^ (1024 : Int) < 10 ^ (311 : Int) := by exact_mod_cast powers
    exact absurd (apart.trans_le above) (not_lt.2 (rounds.value_le normal inRange))
  have scaledFilled : decimal.digits * Nat.pow 10 decimal.exponent.toNat ≠ 0 :=
    Nat.mul_ne_zero filled (Nat.pow_pos (by decide)).ne'
  rw [decimal.value_eq_div] at rounds
  rw [ofDecimal, if_neg (not_or.2 ⟨filled, notTiny⟩), if_neg notHuge]
  exact ofRatio_of_rounds scaledFilled (Nat.pow_pos (by decide)) normal inRange rounds negative

/-- The format has the number: a finite one is not too large. -/
def isInRange : Binary64 → Bool
  | .finite _ _ q => q ≤ 971
  | .nan | .infinite _ => true

theorem isInRange_ofDecimal (negative : Bool) (digits : Nat) (exponent : Int) :
    (ofDecimal negative digits exponent).isInRange = true := by
  unfold ofDecimal
  split
  · rfl
  · split
    · rfl
    · by_cases isZero : digits * Nat.pow 10 exponent.toNat = 0
      · rw [ofRatio, if_pos isZero]
        rfl
      · rw [ofRatio_eq isZero]
        split
        · rfl
        · next inRange => exact decide_eq_true (not_lt.1 inRange)

end ApiTools.Binary64
