import ApiTools.Proofs.Decimal.Nearest
import ApiTools.Proofs.Json.Reading
import ApiTools.Proofs.Json.RoundTrip

/-!
# Numbers in documents

The text of a floating-point number stands in a document as a number with a fraction or an exponent.
It is read as the number nearest to what it denotes, which is the number whose text it is. So every
value that was read is read back once it is written.
-/

namespace ApiTools.Json

open ApiTools.Binary64 (IsDigits denoted? splitFraction)

/-! ## What is read -/

/-- Exponents are read in a document as everywhere else. -/
theorem exponent?_mark {mark : Char} (isMark : mark = 'e' ∨ mark = 'E') (text : List Char) :
    Decimal.exponent? (mark :: text) = readExponent? text := by
  obtain ⟨result, read⟩ : ∃ result, readExponent? text = result := ⟨_, rfl⟩
  rw [Decimal.exponent?, if_pos isMark, read]
  unfold readExponent? at read
  split at read
  · exact read
  · exact read
  · next noMinus noPlus =>
      have noSign : Decimal.splitSign text = (false, text) := by
        unfold Decimal.splitSign
        split
        · exact absurd rfl (noMinus _)
        · exact absurd rfl (noPlus _)
        · rfl
      rw [noSign]
      exact read

/-- What follows the whole part is read as it is denoted. -/
theorem denoted_of_readScale? {tail fraction : List Char} {exponent : Int}
    (read : readScale? tail = some (fraction, exponent)) :
    (splitFraction tail).1 = fraction ∧
      Decimal.exponent? (splitFraction tail).2 = some exponent := by
  unfold readScale? at read
  split at read
  · next rest =>
      rw [splitFraction]
      dsimp only at read
      split at read
      · cases read
      · split at read
        · next ends =>
            obtain ⟨rfl, rfl⟩ := Prod.mk.inj (Option.some.inj read)
            rw [ends]
            exact ⟨rfl, rfl⟩
        · next mark others follows =>
            split at read
            · next isMark =>
                obtain ⟨found, isExponent, isPair⟩ := Option.map_eq_some_iff.1 read
                obtain ⟨rfl, rfl⟩ := Prod.mk.inj isPair
                rw [follows]
                exact ⟨rfl, (exponent?_mark isMark _).trans isExponent⟩
            · cases read
  · next mark rest noPoint =>
      split at read
      · next isMark =>
          obtain ⟨found, isExponent, isPair⟩ := Option.map_eq_some_iff.1 read
          obtain ⟨rfl, rfl⟩ := Prod.mk.inj isPair
          rw [Binary64.splitFraction_of_no_point]
          · exact ⟨rfl, (exponent?_mark isMark _).trans isExponent⟩
          · intro isPoint
            exact noPoint (Option.some.inj isPoint)
      · cases read
  · cases read

/-- A floating-point number is read as the number nearest to what its text denotes. -/
theorem exists_decimal_of_readUnsigned? {negative : Bool} {text : List Char} {number : Binary64}
    (read : readUnsigned? negative text = some (.float number)) :
    ∃ decimal : Binary64.Decimal,
      number = .ofDecimal negative decimal.digits decimal.exponent ∧
        denoted? text = some decimal.value := by
  unfold readUnsigned? at read
  dsimp only at read
  split at read
  · cases read
  · split at read
    · cases read
    · obtain ⟨⟨fraction, exponent⟩, isScale, isNumber⟩ := Option.map_eq_some_iff.1 read
      obtain ⟨isFraction, isExponent⟩ := denoted_of_readScale? isScale
      refine ⟨⟨_, _⟩, (Json.float.inj isNumber).symm, ?_⟩
      rw [denoted?]
      dsimp only
      rw [isExponent, isFraction]
      rfl

/-! ## Numbers with a fraction or an exponent -/

/-- What follows the whole part of a floating-point number. -/
structure IsScale (tail : List Char) : Prop where
  starts : startsScale tail = true
  reads : (readScale? tail).isSome = true

/-- The text is a floating-point number without a sign: a whole part without leading zeros, and a
fraction or an exponent. -/
structure IsScaled (whole tail : List Char) : Prop where
  filled : whole ≠ []
  areDigits : IsDigits whole
  noZeros : whole.head? = some '0' → whole = ['0']
  scale : IsScale tail

/-- An exponent is a sign and digits. -/
def IsExponent (rest : List Char) : Prop :=
  ∃ sign digits, rest = sign :: digits ∧ (sign = '-' ∨ sign = '+') ∧ digits ≠ [] ∧ IsDigits digits

theorem IsExponent.exists_readExponent? {rest : List Char} (isExponent : IsExponent rest) :
    ∃ exponent, readExponent? rest = some exponent := by
  obtain ⟨sign, digits, rfl, isSign, filled, areDigits⟩ := isExponent
  have allDigits : digits ≠ [] ∧ digits.all Char.isDigit = true :=
    ⟨filled, List.all_eq_true.2 areDigits⟩
  rcases isSign with rfl | rfl
  · exact ⟨_, if_pos allDigits⟩
  · exact ⟨_, if_pos allDigits⟩

theorem isScale_exponent {rest : List Char} (isExponent : IsExponent rest) :
    IsScale ('e' :: rest) := by
  obtain ⟨exponent, read⟩ := isExponent.exists_readExponent?
  constructor
  · obtain ⟨sign, digits, rfl, isSign, filled, areDigits⟩ := isExponent
    obtain ⟨digit, others, rfl⟩ := List.exists_cons_of_ne_nil filled
    have isDigit := areDigits digit List.mem_cons_self
    rcases isSign with rfl | rfl <;> simp [startsScale, isDigit]
  · simp [readScale?, read]

theorem isScale_fraction {fraction tail : List Char} (filled : fraction ≠ [])
    (areDigits : IsDigits fraction)
    (ends : tail = [] ∨ ∃ rest, tail = 'e' :: rest ∧ IsExponent rest) :
    IsScale ('.' :: (fraction ++ tail)) := by
  have noDigit : ∀ c ∈ tail.head?, c.isDigit = false := by
    rcases ends with rfl | ⟨rest, rfl, -⟩ <;> simp
  obtain ⟨isFraction, isTail⟩ := Binary64.span_digits areDigits noDigit
  constructor
  · obtain ⟨digit, others, rfl⟩ := List.exists_cons_of_ne_nil filled
    exact areDigits digit List.mem_cons_self
  · have notEmpty : ¬fraction.isEmpty = true := fun isEmpty => filled (List.isEmpty_iff.1 isEmpty)
    rw [readScale?, isFraction, isTail, if_neg notEmpty]
    rcases ends with rfl | ⟨rest, rfl, isExponent⟩
    · rfl
    · obtain ⟨exponent, read⟩ := isExponent.exists_readExponent?
      simp [read]

namespace IsScaled

variable {whole tail : List Char}

theorem span (scaled : IsScaled whole tail) :
    (whole ++ tail).takeWhile Char.isDigit = whole ∧
      (whole ++ tail).dropWhile Char.isDigit = tail := by
  apply Binary64.span_digits scaled.areDigits
  have starts := scaled.scale.starts
  intro c isHead
  obtain ⟨rest, rfl⟩ := List.head?_eq_some_iff.1 isHead
  cases isDigit : c.isDigit with
  | false => rfl
  | true =>
      unfold startsScale at starts
      split at starts
      · next others isPoint =>
          cases (List.cons.inj isPoint).1
          cases isDigit
      · next mark sign others noPoint isMark =>
          obtain ⟨rfl, -⟩ := List.cons.inj isMark
          rw [Bool.and_eq_true, Bool.or_eq_true, beq_iff_eq, beq_iff_eq] at starts
          rcases starts.1 with rfl | rfl <;> cases isDigit
      · cases starts

theorem exists_readUnsigned? (scaled : IsScaled whole tail) (negative : Bool) :
    ∃ number, readUnsigned? negative (whole ++ tail) = some (.float number) := by
  obtain ⟨isWhole, isTail⟩ := scaled.span
  obtain ⟨scale, read⟩ := Option.isSome_iff_exists.1 scaled.scale.reads
  have isProper : ¬(whole = [] ∨ whole.head? = some '0' ∧ whole ≠ ['0']) := by
    rintro (isNil | ⟨startsWithZero, several⟩)
    · exact scaled.filled isNil
    · exact several (scaled.noZeros startsWithZero)
  have hasTail : tail ≠ [] := by
    rintro rfl
    cases scaled.scale.starts
  unfold readUnsigned?
  dsimp only
  rw [isWhole, isTail, if_neg isProper, if_neg hasTail, read, Option.map_some]
  exact ⟨_, rfl⟩

theorem isOverlong_eq_false (scaled : IsScaled whole tail) :
    isOverlong (whole ++ tail) = false ∧ isOverlong ('-' :: (whole ++ tail)) = false := by
  obtain ⟨isWhole, isTail⟩ := scaled.span
  have noSign : (whole ++ tail).head? ≠ some '-' := by
    obtain ⟨digit, others, rfl⟩ := List.exists_cons_of_ne_nil scaled.filled
    intro isSign
    cases Option.some.inj isSign
    cases scaled.areDigits '-' List.mem_cons_self
  constructor
  · rw [isOverlong, if_neg noSign, isTail, scaled.scale.starts, Bool.not_true, Bool.and_false]
  · rw [isOverlong, if_pos List.head?_cons, List.drop_one, List.tail_cons, isTail,
      scaled.scale.starts, Bool.not_true, Bool.and_false]

/-- The number is read, also behind a sign. -/
theorem exists_readWord (scaled : IsScaled whole tail) (negative : Bool) :
    ∃ decimal : Binary64.Decimal, denoted? (whole ++ tail) = some decimal.value ∧
      readWord ((if negative then ['-'] else []) ++ (whole ++ tail)) =
        .scalar (.float (.ofDecimal negative decimal.digits decimal.exponent)) := by
  obtain ⟨number, read⟩ := scaled.exists_readUnsigned? negative
  obtain ⟨decimal, rfl, denoted⟩ := exists_decimal_of_readUnsigned? read
  refine ⟨decimal, denoted, ?_⟩
  obtain ⟨fits, fitsBehind⟩ := scaled.isOverlong_eq_false
  obtain ⟨digit, others, isCons⟩ := List.exists_cons_of_ne_nil scaled.filled
  have isDigit := scaled.areDigits digit (isCons ▸ List.mem_cons_self)
  obtain ⟨bare, signed⟩ := readScalar?_of_digit isDigit (others ++ tail)
  rw [← List.cons_append, ← isCons] at bare signed
  cases negative with
  | false =>
      have plain : (if false then ['-'] else []) ++ (whole ++ tail) = whole ++ tail := rfl
      rw [plain, readWord, fits, bare, read]
      rfl
  | true =>
      have minus : (if true then ['-'] else []) ++ (whole ++ tail) = '-' :: (whole ++ tail) := rfl
      rw [minus, readWord, fitsBehind, signed, read]
      rfl

end IsScaled

/-! ## Layouts -/

section

variable {digits : List Char}

theorem isExponent_layout (leading : Int) : IsExponent ((if leading < 0 then '-' else '+') ::
    (List.replicate (2 - (Nat.toDigits 10 leading.natAbs).length) '0' ++
      Nat.toDigits 10 leading.natAbs)) := by
  refine ⟨_, _, rfl, ?_, List.append_ne_nil_of_right_ne_nil _ Nat.toDigits_ne_nil,
    Binary64.isDigits_append.2 ⟨Binary64.isDigits_replicate _, Binary64.isDigits_toDigits _⟩⟩
  split
  · exact Or.inl rfl
  · exact Or.inr rfl

/-- Each layout of digits is a floating-point number. -/
theorem exists_isScaled_layout (filled : digits ≠ []) (areDigits : IsDigits digits)
    (noZero : digits.head? ≠ some '0') (leading : Int) :
    ∃ whole tail, Binary64.layout digits leading = whole ++ tail ∧ IsScaled whole tail := by
  have taken (count : Nat) : IsDigits (digits.take count) :=
    fun c member => areDigits c (List.mem_of_mem_take member)
  have dropped (count : Nat) : IsDigits (digits.drop count) :=
    fun c member => areDigits c (List.mem_of_mem_drop member)
  have notNil (count : Nat) : digits.take (count + 1) ≠ [] := by
    rw [Ne, List.take_eq_nil_iff]
    exact not_or.2 ⟨Nat.succ_ne_zero count, filled⟩
  have sameHead (count : Nat) : (digits.take (count + 1)).head? = digits.head? := by
    cases digits <;> rfl
  unfold Binary64.layout
  split
  · split
    · have fractionDigits : IsDigits (List.replicate (-leading - 1).toNat '0' ++ digits) :=
        Binary64.isDigits_append.2 ⟨Binary64.isDigits_replicate _, areDigits⟩
      have scale := isScale_fraction (List.append_ne_nil_of_right_ne_nil _ filled) fractionDigits
        (Or.inl rfl)
      rw [List.append_nil] at scale
      exact ⟨['0'], _, rfl, List.cons_ne_nil _ _, Binary64.isDigits_replicate 1, fun _ => rfl,
        scale⟩
    · refine ⟨_, _, rfl, List.append_ne_nil_of_left_ne_nil (notNil _) _,
        Binary64.isDigits_append.2 ⟨taken _, Binary64.isDigits_replicate _⟩, ?_, ?_⟩
      · intro startsWithZero
        rw [List.head?_append_of_ne_nil _ (notNil _), sameHead] at startsWithZero
        exact absurd startsWithZero noZero
      · split
        · have scale := isScale_fraction (List.cons_ne_nil '0' []) (Binary64.isDigits_replicate 1)
            (Or.inl rfl)
          exact scale
        · next notEmpty =>
            have scale := isScale_fraction (fun isNil => notEmpty (List.isEmpty_iff.2 isNil))
              (dropped _) (Or.inl rfl)
            rwa [List.append_nil] at scale
  · dsimp only
    rw [List.append_assoc]
    refine ⟨_, _, rfl, notNil 0, taken 1, ?_, ?_⟩
    · intro startsWithZero
      rw [sameHead] at startsWithZero
      exact absurd startsWithZero noZero
    · split
      · exact isScale_exponent (isExponent_layout leading)
      · next notEmpty =>
          exact isScale_fraction (fun isNil => notEmpty (List.isEmpty_iff.2 isNil)) (dropped 1)
            (Or.inr ⟨_, rfl, isExponent_layout leading⟩)

end

/-- The text of every finite number is a floating-point number. -/
theorem exists_isScaled_magnitudeText (m : Nat) (q : Int) :
    ∃ whole tail, Binary64.magnitudeText m q = whole ++ tail ∧ IsScaled whole tail := by
  rcases Nat.eq_zero_or_pos m with rfl | positive
  · have scale := isScale_fraction (List.cons_ne_nil '0' []) (Binary64.isDigits_replicate 1)
      (Or.inl rfl)
    exact ⟨['0'], _, rfl, List.cons_ne_nil _ _, Binary64.isDigits_replicate 1, fun _ => rfl, scale⟩
  · obtain ⟨kept, count, filled, isSplit, isLayout⟩ := Binary64.exists_eq_layout positive q
    have areDigits := Binary64.isDigits_toDigits (Binary64.shortest m q).digits
    rw [isSplit, Binary64.isDigits_append] at areDigits
    have noZero : kept.head? ≠ some '0' := by
      intro startsWithZero
      rw [← List.head?_append_of_ne_nil kept filled, ← isSplit] at startsWithZero
      have value := Nat.ofDigitChars_ten_toDigits (n := (Binary64.shortest m q).digits)
      rw [head?_toDigits startsWithZero] at value
      exact (Binary64.digits_shortest_pos positive q).ne value
    rw [isLayout]
    exact exists_isScaled_layout filled areDigits.1 noZero _

/-! ## Reading what was written -/

/-- A finite number is read back from its text. -/
theorem readWord_finite {m : Nat} {q : Int} (normal : Binary64.IsNormal m q) (inRange : q ≤ 971)
    (negative : Bool) :
    readWord ((if negative then ['-'] else []) ++ Binary64.magnitudeText m q) =
      .scalar (.float (.finite negative m q)) := by
  obtain ⟨whole, tail, isText, scaled⟩ := exists_isScaled_magnitudeText m q
  obtain ⟨decimal, denoted, read⟩ := scaled.exists_readWord negative
  rw [← isText] at denoted read
  rw [read]
  congr 2
  rcases Nat.eq_zero_or_pos m with rfl | positive
  · rw [Binary64.denoted?_magnitudeText_zero, Option.some.injEq] at denoted
    have noDigits : decimal.digits = 0 := by
      have notPositive : ¬0 < decimal.digits := fun filled =>
        (Binary64.value_pos_iff.2 filled).ne denoted
      omega
    have finest : q = -1074 := by
      have atLeast := normal.atLeast
      have full := normal.full
      omega
    rw [Binary64.ofDecimal, if_pos (Or.inl noDigits), finest]
    rfl
  · rw [Binary64.denoted?_magnitudeText positive, Option.some.injEq] at denoted
    exact Binary64.ofDecimal_of_rounds positive normal inRange
      (denoted ▸ Binary64.rounds_shortest positive) negative

/-- Every number of the format is read back from its text. -/
theorem readWord_text {number : Binary64} (normal : number.isNormal = true)
    (inRange : number.isInRange = true) :
    readWord (number.text "NaN" "Infinity") = .scalar (.float number) := by
  cases number with
  | nan => rfl
  | infinite negative =>
      cases negative with
      | false => rfl
      | true => rfl
  | finite negative m q =>
      exact readWord_finite (Binary64.isNormal_iff.1 normal) (of_decide_eq_true inRange) negative

/-! ## Values that were read -/

theorem ofDigitChars_lt {digits : List Char} (areDigits : IsDigits digits) (start : Nat) :
    Nat.ofDigitChars 10 digits start < (start + 1) * 10 ^ digits.length := by
  induction digits generalizing start with
  | nil => simp
  | cons c rest inductionHypothesis =>
      obtain ⟨isDigit, restDigits⟩ := List.forall_mem_cons.1 areDigits
      have small : c.toNat - '0'.toNat ≤ 9 := by
        have bounds : 48 ≤ c.toNat ∧ c.toNat ≤ 57 := by
          simpa [Char.isDigit, UInt32.le_iff_toNat_le] using isDigit
        have zero : '0'.toNat = 48 := rfl
        omega
      rw [Nat.ofDigitChars_cons]
      calc
        Nat.ofDigitChars 10 rest (10 * start + (c.toNat - '0'.toNat))
            < (10 * start + (c.toNat - '0'.toNat) + 1) * 10 ^ rest.length :=
          inductionHypothesis restDigits _
        _ ≤ ((start + 1) * 10) * 10 ^ rest.length := Nat.mul_le_mul_right _ (by omega)
        _ = (start + 1) * 10 ^ (c :: rest).length := by
          rw [Nat.mul_assoc, List.length_cons, Nat.pow_succ']

theorem isDigits_takeWhile (text : List Char) : IsDigits (text.takeWhile Char.isDigit) :=
  fun _ member => List.mem_takeWhile_imp member

theorem isPrintable_ofDecimal (negative : Bool) (digits : Nat) (exponent : Int) :
    IsPrintable (.float (.ofDecimal negative digits exponent)) :=
  .float (readWord_text (Binary64.isNormal_ofDecimal negative digits exponent)
    (Binary64.isInRange_ofDecimal negative digits exponent))

/-- Digits that may be read denote an integer that may be read. -/
theorem isShort_ofDigitChars {digits : List Char} (areDigits : IsDigits digits)
    (short : digits.length ≤ Decimal.digitLimit) :
    IsShort (Nat.ofDigitChars 10 digits 0 : Int) := by
  have bound := ofDigitChars_lt areDigits 0
  rw [Nat.zero_add, Nat.one_mul] at bound
  exact isShort_iff.2 (bound.trans_le (Nat.pow_le_pow_right (by decide) short))

/-- A number that is not overlong is read back once it is written. -/
theorem isPrintable_of_readUnsigned? {negative : Bool} {text : List Char} {value : Json}
    (fits : (Decimal.digitLimit < (text.takeWhile Char.isDigit).length &&
      (text.takeWhile Char.isDigit).head? != some '0' &&
        !startsScale (text.dropWhile Char.isDigit)) = false)
    (done : readUnsigned? negative text = some value) : IsPrintable value := by
  unfold readUnsigned? at done
  dsimp only at done
  split at done
  · cases done
  · next proper =>
      split at done
      · next noTail =>
          have noScale : startsScale [] = false := rfl
          have areDigits := isDigits_takeWhile text
          rw [noTail, noScale] at fits
          generalize text.takeWhile Char.isDigit = whole at *
          rw [not_or, not_and_not_right] at proper
          have short : whole.length ≤ Decimal.digitLimit := by
            by_cases startsWithZero : whole.head? = some '0'
            · rw [proper.2 startsWithZero]
              decide
            · simpa [startsWithZero] using fits
          have isShort := isShort_ofDigitChars areDigits short
          obtain rfl := Option.some.inj done
          cases negative with
          | false => exact .int isShort
          | true => exact .int (isShort_neg.2 isShort)
      · obtain ⟨scale, -, rfl⟩ := Option.map_eq_some_iff.1 done
        exact isPrintable_ofDecimal _ _ _

theorem isPrintable_of_readWord {text : List Char} {value : Json}
    (read : readWord text = .scalar value) : IsPrintable value := by
  have fits : isOverlong text = false := by
    cases overlong : isOverlong text with
    | false => rfl
    | true =>
        rw [readWord, if_pos overlong] at read
        cases read
  have words : ∀ word value : Json, IsPrintable word → some word = some value →
      IsPrintable value := fun word value printable same => Option.some.inj same ▸ printable
  have done := readScalar?_of_readWord read
  unfold readScalar? at done
  split at done
  · exact words _ _ .null done
  · split at done
    · exact words _ _ (.bool true) done
    · split at done
      · exact words _ _ (.bool false) done
      · split at done
        · exact words _ _ (.float rfl) done
        · split at done
          · exact words _ _ (.float rfl) done
          · split at done
            · exact words _ _ (.float rfl) done
            · split at done
              · exact isPrintable_of_readUnsigned? fits done
              · next noSign =>
                  have isUnsigned : ¬text.head? = some '-' := by
                    intro signed
                    obtain ⟨rest, rfl⟩ := List.head?_eq_some_iff.1 signed
                    exact noSign rest rfl
                  rw [isOverlong, if_neg isUnsigned] at fits
                  exact isPrintable_of_readUnsigned? fits done

theorem composes_isPrintable : Composes IsPrintable where
  scalar := isPrintable_of_readWord
  str := .str
  arr := .arr
  obj := .obj

/-- Every value that was read is read back once it is written. -/
theorem isPrintable_of_read {document : List Char} {value : Json}
    (done : read document = .ok value) : IsPrintable value :=
  composes_isPrintable.of_read done

end ApiTools.Json
