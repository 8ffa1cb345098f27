import ApiTools.Decimal.Reader
import ApiTools.Proofs.Decimal.Rounding
import ApiTools.Proofs.Text.Search

/-!
# The texts of numbers

The text of a number denotes its shortest decimal, whichever of the three layouts it has. So
different numbers have different texts. These are made of digits, points, signs and the letter of an
exponent, and never look like integers.
-/

namespace ApiTools.Binary64

variable {m n : Nat} {q r : Int}

/-! ## Digits -/

theorem value_pos_iff {decimal : Decimal} : 0 < decimal.value ↔ 0 < decimal.digits := by
  rw [Decimal.value, mul_pos_iff_of_pos_right (by positivity), Nat.cast_pos]

/-- Zeros behind the digits can be counted in the exponent. -/
theorem value_mul_pow (digits count : Nat) (exponent : Int) :
    (⟨10 ^ count * digits, exponent⟩ : Decimal).value =
      (⟨digits, exponent + count⟩ : Decimal).value := by
  rw [Decimal.value, Decimal.value, Nat.cast_mul, Nat.cast_pow, Nat.cast_ofNat,
    zpow_add₀ (by norm_num), zpow_natCast]
  ring

/-- Digits in decimal notation. -/
def IsDigits (text : List Char) : Prop :=
  ∀ c ∈ text, c.isDigit = true

theorem isDigits_append {first second : List Char} :
    IsDigits (first ++ second) ↔ IsDigits first ∧ IsDigits second :=
  List.forall_mem_append

theorem isDigits_replicate (count : Nat) : IsDigits (List.replicate count '0') := by
  intro c member
  rw [List.eq_of_mem_replicate member]
  rfl

theorem isDigits_toDigits (n : Nat) : IsDigits (Nat.toDigits 10 n) :=
  fun _ member => Nat.isDigit_of_mem_toDigits (by decide) (by decide) member

theorem span_digits {digits rest : List Char} (areDigits : IsDigits digits)
    (ends : ∀ c ∈ rest.head?, c.isDigit = false) :
    (digits ++ rest).takeWhile Char.isDigit = digits ∧
      (digits ++ rest).dropWhile Char.isDigit = rest :=
  Text.span_of_ends areDigits ends

/-! ## What a text denotes -/

/-- The digits behind a point, if a text starts with one, and the rest. -/
def splitFraction : List Char → List Char × List Char
  | '.' :: rest => (rest.takeWhile Char.isDigit, rest.dropWhile Char.isDigit)
  | rest => ([], rest)

/-- The value of digits, of which some follow a point, with an exponent. -/
def denoted? (text : List Char) : Option ℚ :=
  let whole := text.takeWhile Char.isDigit
  let (fraction, tail) := splitFraction (text.dropWhile Char.isDigit)
  (ApiTools.Decimal.exponent? tail).map fun exponent =>
    (⟨Nat.ofDigitChars 10 (whole ++ fraction) 0, exponent - fraction.length⟩ : Decimal).value

theorem splitFraction_of_no_point {text : List Char} (noPoint : text.head? ≠ some '.') :
    splitFraction text = ([], text) := by
  unfold splitFraction
  split
  · exact absurd rfl noPoint
  · rfl

theorem denoted?_point {whole fraction tail : List Char} (areDigits : IsDigits whole)
    (fractionDigits : IsDigits fraction) (ends : ∀ c ∈ tail.head?, c.isDigit = false) :
    denoted? (whole ++ '.' :: (fraction ++ tail)) =
      (ApiTools.Decimal.exponent? tail).map fun exponent =>
        (⟨Nat.ofDigitChars 10 (whole ++ fraction) 0,
          exponent - fraction.length⟩ : Decimal).value := by
  have pointEnds : ∀ c ∈ ('.' :: (fraction ++ tail)).head?, c.isDigit = false := by simp
  have first := span_digits areDigits pointEnds
  have second := span_digits fractionDigits ends
  simp only [denoted?, first.1, first.2, splitFraction, second.1, second.2]

theorem denoted?_whole {whole tail : List Char} (areDigits : IsDigits whole)
    (ends : ∀ c ∈ tail.head?, c.isDigit = false ∧ c ≠ '.') :
    denoted? (whole ++ tail) =
      (ApiTools.Decimal.exponent? tail).map fun exponent =>
        (⟨Nat.ofDigitChars 10 whole 0, exponent⟩ : Decimal).value := by
  have first := span_digits areDigits fun c isHead => (ends c isHead).1
  have noPoint : tail.head? ≠ some '.' := fun isPoint => (ends '.' isPoint).2 rfl
  simp only [denoted?, first.1, first.2, splitFraction_of_no_point noPoint, List.append_nil,
    List.length_nil, Nat.cast_zero, sub_zero]

theorem exponent?_digits {digits : List Char} (filled : digits ≠ []) (areDigits : IsDigits digits)
    (negative : Bool) :
    ApiTools.Decimal.exponent? ('e' :: (if negative then '-' else '+') :: digits) =
      some (if negative then -(Nat.ofDigitChars 10 digits 0 : Int)
        else Nat.ofDigitChars 10 digits 0) := by
  have allDigits : digits.all Char.isDigit = true := List.all_eq_true.2 areDigits
  cases negative <;>
    simp [ApiTools.Decimal.exponent?, ApiTools.Decimal.splitSign, filled, allDigits]

theorem exponent?_layout (leading : Int) :
    ApiTools.Decimal.exponent? ('e' :: (if leading < 0 then '-' else '+') ::
      (List.replicate (2 - (Nat.toDigits 10 leading.natAbs).length) '0' ++
        Nat.toDigits 10 leading.natAbs)) = some leading := by
  have areDigits : IsDigits (List.replicate (2 - (Nat.toDigits 10 leading.natAbs).length) '0' ++
      Nat.toDigits 10 leading.natAbs) :=
    isDigits_append.2 ⟨isDigits_replicate _, isDigits_toDigits _⟩
  have filled := List.append_ne_nil_of_right_ne_nil
    (List.replicate (2 - (Nat.toDigits 10 leading.natAbs).length) '0')
    (Nat.toDigits_ne_nil (n := leading.natAbs) (b := 10))
  have read := exponent?_digits filled areDigits (decide (leading < 0))
  rw [Nat.ofDigitChars_append, Nat.ofDigitChars_replicate_zero, Nat.mul_zero,
    Nat.ofDigitChars_toDigits (by decide) (by decide)] at read
  simp only [decide_eq_true_eq] at read
  rw [read]
  split
  · congr 1
    omega
  · congr 1
    omega

section

variable {digits : List Char}

theorem denoted?_behind_point (areDigits : IsDigits digits) (count : Nat) :
    denoted? ('0' :: '.' :: (List.replicate count '0' ++ digits)) =
      some (⟨Nat.ofDigitChars 10 digits 0, -(count + digits.length : Nat)⟩ : Decimal).value := by
  have zeroDigit : IsDigits ['0'] := isDigits_replicate 1
  have fractionDigits : IsDigits (List.replicate count '0' ++ digits) :=
    isDigits_append.2 ⟨isDigits_replicate _, areDigits⟩
  have noTail : ∀ c ∈ ([] : List Char).head?, c.isDigit = false := by simp
  have point := denoted?_point zeroDigit fractionDigits noTail
  have zeros : ['0'] ++ (List.replicate count '0' ++ digits) =
      List.replicate (count + 1) '0' ++ digits := rfl
  rw [List.append_nil, zeros, Nat.ofDigitChars_append, Nat.ofDigitChars_replicate_zero,
    Nat.mul_zero, List.length_append, List.length_replicate] at point
  rw [← List.singleton_append, point]
  simp [ApiTools.Decimal.exponent?]

theorem denoted?_around_point (areDigits : IsDigits digits) (whole : Nat) :
    denoted? (digits.take whole ++ List.replicate (whole - digits.length) '0' ++
      '.' :: (if (digits.drop whole).isEmpty then ['0'] else digits.drop whole)) =
      some (⟨Nat.ofDigitChars 10 digits 0, whole - digits.length⟩ : Decimal).value := by
  have wholeDigits : IsDigits (digits.take whole ++ List.replicate (whole - digits.length) '0') :=
    isDigits_append.2
      ⟨fun c member => areDigits c (List.mem_of_mem_take member), isDigits_replicate _⟩
  have noTail : ∀ c ∈ ([] : List Char).head?, c.isDigit = false := by simp
  by_cases long : whole < digits.length
  · have fractionDigits : IsDigits (digits.drop whole) :=
      fun c member => areDigits c (List.mem_of_mem_drop member)
    have filled : ¬ (digits.drop whole).isEmpty = true := by
      rw [List.isEmpty_iff, List.drop_eq_nil_iff]
      omega
    have noZeros : whole - digits.length = 0 := by omega
    have point := denoted?_point wholeDigits fractionDigits noTail
    rw [List.append_nil] at point
    rw [if_neg filled, point, noZeros, List.replicate_zero, List.append_nil,
      List.take_append_drop, List.length_drop]
    have count : -((digits.length - whole : Nat) : Int) = whole - digits.length := by omega
    simp [ApiTools.Decimal.exponent?, count]
  · have isAll : digits.take whole = digits := List.take_of_length_le (by omega)
    have isEmpty : (digits.drop whole).isEmpty = true := by
      rw [List.isEmpty_iff, List.drop_eq_nil_iff]
      omega
    have zeroDigit : IsDigits ['0'] := isDigits_replicate 1
    have point := denoted?_point wholeDigits zeroDigit noTail
    have zeros : List.replicate (whole - digits.length) '0' ++ ['0'] =
        List.replicate (whole - digits.length + 1) '0' := List.replicate_succ'.symm
    rw [List.append_nil] at point
    rw [if_pos isEmpty, point, isAll, List.append_assoc, zeros, Nat.ofDigitChars_append,
      Nat.ofDigitChars_replicate_zero]
    have count : -1 + ((whole - digits.length + 1 : Nat) : Int) = whole - digits.length := by omega
    simp only [ApiTools.Decimal.exponent?, Option.map_some, List.length_singleton, Nat.cast_one,
      zero_sub, value_mul_pow, count]

theorem denoted?_with_exponent (filled : digits ≠ []) (areDigits : IsDigits digits)
    (leading : Int) :
    denoted? (digits.take 1 ++
      (if (digits.drop 1).isEmpty then [] else '.' :: digits.drop 1) ++
        'e' :: (if leading < 0 then '-' else '+') ::
          (List.replicate (2 - (Nat.toDigits 10 leading.natAbs).length) '0' ++
            Nat.toDigits 10 leading.natAbs)) =
      some (⟨Nat.ofDigitChars 10 digits 0, leading + 1 - digits.length⟩ : Decimal).value := by
  obtain ⟨first, fraction, rfl⟩ := List.exists_cons_of_ne_nil filled
  have read := exponent?_layout leading
  have ends : ∀ c ∈ ('e' :: (if leading < 0 then '-' else '+') ::
      (List.replicate (2 - (Nat.toDigits 10 leading.natAbs).length) '0' ++
        Nat.toDigits 10 leading.natAbs)).head?, c.isDigit = false ∧ c ≠ '.' := by simp
  generalize 'e' :: (if leading < 0 then '-' else '+') ::
    (List.replicate (2 - (Nat.toDigits 10 leading.natAbs).length) '0' ++
      Nat.toDigits 10 leading.natAbs) = tail at read ends
  have firstDigit : IsDigits [first] :=
    List.forall_mem_singleton.2 (areDigits first List.mem_cons_self)
  cases fraction with
  | nil =>
      have whole := denoted?_whole firstDigit ends
      rw [read, Option.map_some] at whole
      simpa using whole
  | cons second others =>
      have fractionDigits : IsDigits (second :: others) :=
        fun c member => areDigits c (List.mem_cons_of_mem first member)
      have point := denoted?_point firstDigit fractionDigits fun c isHead => (ends c isHead).1
      have count : leading + 1 - ((first :: second :: others).length : Int) =
          leading - ((second :: others).length : Int) := by
        rw [List.length_cons]
        omega
      rw [read, Option.map_some] at point
      rw [count]
      exact point

end

/-- A layout denotes its digits, of which the first one has the given place. -/
theorem denoted?_layout {digits : List Char} (filled : digits ≠ []) (areDigits : IsDigits digits)
    (leading : Int) :
    denoted? (layout digits leading) =
      some (⟨Nat.ofDigitChars 10 digits 0, leading + 1 - digits.length⟩ : Decimal).value := by
  unfold layout
  split
  · split
    · next _ negative =>
        rw [denoted?_behind_point areDigits]
        congr 3
        omega
    · next _ notNegative =>
        have around := denoted?_around_point areDigits (leading.toNat + 1)
        dsimp only
        rw [around]
        congr 3
        omega
  · exact denoted?_with_exponent filled areDigits leading

/-! ## The text of a number -/

/-- Digits without the zeros at their end, and how many these are. -/
theorem exists_zeros (digits : List Char) :
    ∃ count, digits =
      (digits.reverse.dropWhile (· == '0')).reverse ++ List.replicate count '0' := by
  have zeros : ∀ c ∈ digits.reverse.takeWhile (· == '0'), c = '0' :=
    fun _ member => beq_iff_eq.1 (List.mem_takeWhile_imp (p := (· == '0')) member)
  refine ⟨(digits.reverse.takeWhile (· == '0')).length, ?_⟩
  have split := congrArg List.reverse
    (List.takeWhile_append_dropWhile (p := (· == '0')) (l := digits.reverse))
  rw [List.reverse_append, List.reverse_reverse, List.eq_replicate_of_mem zeros,
    List.reverse_replicate] at split
  exact split.symm

theorem value_pos_of_rounds (positive : 0 < m) (rounds : Rounds value m q) : 0 < value := by
  have lower : 0 < lowerQuarters m q := by
    unfold lowerQuarters
    split <;> omega
  have above := scaled_lt lower (q - 2)
  have zero : scaled 0 (q - 2) = 0 := by simp [scaled]
  exact lt_of_lt_of_le (zero ▸ above) rounds.atLeast

theorem rounds_shortest (positive : 0 < m) : Rounds (shortest m q).value m q :=
  rounds_of_readsBack (readsBack_shortest positive)

theorem digits_shortest_pos (positive : 0 < m) (q : Int) : 0 < (shortest m q).digits :=
  value_pos_iff.1 (value_pos_of_rounds positive (rounds_shortest positive))

/-- The text of a number is a layout of the digits of its shortest decimal, without the zeros at
their end. -/
theorem exists_eq_layout (positive : 0 < m) (q : Int) : ∃ kept count, kept ≠ [] ∧
    Nat.toDigits 10 (shortest m q).digits = kept ++ List.replicate count '0' ∧
    magnitudeText m q = layout kept ((shortest m q).exponent + count + kept.length - 1) := by
  have digitsPositive := digits_shortest_pos positive q
  obtain ⟨count, split⟩ := exists_zeros (Nat.toDigits 10 (shortest m q).digits)
  obtain ⟨kept, isKept⟩ : ∃ kept, kept =
      ((Nat.toDigits 10 (shortest m q).digits).reverse.dropWhile (· == '0')).reverse := ⟨_, rfl⟩
  rw [← isKept] at split
  refine ⟨kept, count, ?_, split, ?_⟩
  · rintro rfl
    have value := Nat.ofDigitChars_ten_toDigits (n := (shortest m q).digits)
    rw [split, List.nil_append, ← List.append_nil (List.replicate count '0'),
      Nat.ofDigitChars_append, Nat.ofDigitChars_replicate_zero, Nat.ofDigitChars_nil,
      Nat.mul_zero] at value
    omega
  · have length := congrArg List.length split
    rw [List.length_append, List.length_replicate] at length
    rw [magnitudeText, if_neg (by omega)]
    dsimp only
    rw [← isKept, length]
    congr 1
    omega

/-- The text of a number denotes its shortest decimal. -/
theorem denoted?_magnitudeText (positive : 0 < m) :
    denoted? (magnitudeText m q) = some (shortest m q).value := by
  obtain ⟨kept, count, filled, split, isLayout⟩ := exists_eq_layout positive q
  have areDigits := isDigits_toDigits (shortest m q).digits
  rw [split, isDigits_append] at areDigits
  have value := Nat.ofDigitChars_ten_toDigits (n := (shortest m q).digits)
  rw [split, Nat.ofDigitChars_append, Nat.ofDigitChars_replicate_zero] at value
  have exponent : (shortest m q).exponent + count + kept.length - 1 + 1 - kept.length =
      (shortest m q).exponent + count := by omega
  rw [isLayout, denoted?_layout filled areDigits.1, exponent, ← value_mul_pow, value]

theorem denoted?_magnitudeText_zero (q : Int) : denoted? (magnitudeText 0 q) = some 0 := by
  have text : magnitudeText 0 q = ['0'] ++ '.' :: (['0'] ++ []) := rfl
  have zeroDigit : IsDigits ['0'] := isDigits_replicate 1
  rw [text, denoted?_point zeroDigit zeroDigit (by simp)]
  simp [ApiTools.Decimal.exponent?, Decimal.value, Nat.ofDigitChars]

/-- What the text of a number denotes. -/
theorem exists_denoted (m : Nat) (q : Int) : ∃ value, denoted? (magnitudeText m q) = some value ∧
    (m = 0 ∧ value = 0 ∨ 0 < m ∧ 0 < value ∧ Rounds value m q) := by
  rcases Nat.eq_zero_or_pos m with rfl | positive
  · exact ⟨0, denoted?_magnitudeText_zero q, Or.inl ⟨rfl, rfl⟩⟩
  · have rounds : Rounds (shortest m q).value m q := rounds_shortest positive
    have isPositive := value_pos_of_rounds positive rounds
    exact ⟨_, denoted?_magnitudeText positive, Or.inr ⟨positive, isPositive, rounds⟩⟩

theorem magnitudeText_injective (normal : IsNormal m q) (otherNormal : IsNormal n r)
    (same : magnitudeText m q = magnitudeText n r) : m = n ∧ q = r := by
  obtain ⟨value, denoted, isZero | ⟨_, positive, rounds⟩⟩ := exists_denoted m q
  · obtain ⟨other, otherDenoted, otherZero | ⟨_, positive, _⟩⟩ := exists_denoted n r
    · obtain ⟨rfl, -⟩ := isZero
      obtain ⟨rfl, -⟩ := otherZero
      have atLeast := normal.atLeast
      have otherAtLeast := otherNormal.atLeast
      have full := normal.full
      have otherFull := otherNormal.full
      exact ⟨rfl, by omega⟩
    · rw [same, otherDenoted, Option.some.injEq] at denoted
      rw [denoted, isZero.2] at positive
      exact absurd positive (lt_irrefl 0)
  · obtain ⟨other, otherDenoted, otherZero | ⟨_, _, others⟩⟩ := exists_denoted n r
    · rw [same, otherDenoted, Option.some.injEq] at denoted
      rw [← denoted, otherZero.2] at positive
      exact absurd positive (lt_irrefl 0)
    · rw [same, otherDenoted, Option.some.injEq] at denoted
      exact rounds.unique (denoted ▸ others) normal otherNormal

/-! ## The characters of a text -/

/-- The character can stand in a number. -/
def isNumeral (c : Char) : Bool :=
  c.isDigit || c = '.' || c = 'e' || c = '+' || c = '-'

theorem isNumeral_of_isDigits {digits : List Char} (areDigits : IsDigits digits) :
    ∀ c ∈ digits, isNumeral c = true := by
  intro c member
  rw [isNumeral, areDigits c member]
  rfl

theorem isNumeral_layout {digits : List Char} (areDigits : IsDigits digits) (leading : Int) :
    ∀ c ∈ layout digits leading, isNumeral c = true := by
  have numerals := isNumeral_of_isDigits areDigits
  have taken (count : Nat) : ∀ c ∈ digits.take count, isNumeral c = true := fun c member =>
    numerals c (List.mem_of_mem_take member)
  have dropped (count : Nat) : ∀ c ∈ digits.drop count, isNumeral c = true := fun c member =>
    numerals c (List.mem_of_mem_drop member)
  have zeros (count : Nat) := isNumeral_of_isDigits (isDigits_replicate count)
  have size (count : Nat) := isNumeral_of_isDigits (isDigits_toDigits count)
  unfold layout
  split
  · split
    · exact List.forall_mem_cons.2
        ⟨rfl, List.forall_mem_cons.2 ⟨rfl, List.forall_mem_append.2 ⟨zeros _, numerals⟩⟩⟩
    · refine List.forall_mem_append.2 ⟨List.forall_mem_append.2 ⟨taken _, zeros _⟩,
        List.forall_mem_cons.2 ⟨rfl, ?_⟩⟩
      split
      · exact zeros 1
      · exact dropped _
  · refine List.forall_mem_append.2 ⟨List.forall_mem_append.2 ⟨taken _, ?_⟩,
      List.forall_mem_cons.2 ⟨rfl, List.forall_mem_cons.2 ⟨?_, ?_⟩⟩⟩
    · split
      · exact List.forall_mem_nil _
      · exact List.forall_mem_cons.2 ⟨rfl, dropped _⟩
    · split <;> rfl
    · exact List.forall_mem_append.2 ⟨zeros _, size _⟩

theorem isNumeral_magnitudeText (m : Nat) (q : Int) :
    ∀ c ∈ magnitudeText m q, isNumeral c = true := by
  unfold magnitudeText
  split
  · exact List.all_eq_true.1 rfl
  · apply isNumeral_layout
    intro c member
    have inDigits := (List.dropWhile_sublist _).subset (List.mem_reverse.1 member)
    exact isDigits_toDigits _ c (List.mem_reverse.1 inDigits)

/-- Unlike an integer, a number shows a point or an exponent. -/
theorem exists_mark_mem_magnitudeText (m : Nat) (q : Int) :
    ∃ mark ∈ ['.', 'e'], mark ∈ magnitudeText m q := by
  unfold magnitudeText
  split
  · exact ⟨'.', by decide, by decide⟩
  · dsimp only
    unfold layout
    split
    · split
      · exact ⟨'.', by decide, by simp⟩
      · exact ⟨'.', by decide, by simp⟩
    · exact ⟨'e', by decide, by simp⟩

/-! ## Signs and words -/

/-- The number stands with the parts that are proper for it. -/
def isNormal : Binary64 → Bool
  | .finite _ m q => m < 2 ^ 53 && -1074 ≤ q && (q = -1074 || 2 ^ 52 ≤ m)
  | .nan | .infinite _ => true

/-- The text has a minus sign. -/
def isSigned : Binary64 → Bool
  | .nan => false
  | .infinite negative | .finite negative _ _ => negative

/-- The text without the sign. -/
def unsignedText : Binary64 → List Char
  | .nan => "nan".toList
  | .infinite _ => "inf".toList
  | .finite _ m q => magnitudeText m q

theorem text_eq (number : Binary64) :
    number.text "nan" "inf" = (if number.isSigned then ['-'] else []) ++ number.unsignedText := by
  cases number <;> rfl

theorem isNormal_iff {negative : Bool} :
    (finite negative m q).isNormal = true ↔ IsNormal m q := by
  simp only [isNormal, Bool.and_eq_true, Bool.or_eq_true, decide_eq_true_eq]
  constructor
  · rintro ⟨⟨small, atLeast⟩, full⟩
    exact ⟨small, atLeast, fun fine => full.resolve_left fine.ne'⟩
  · intro normal
    refine ⟨⟨normal.small, normal.atLeast⟩, ?_⟩
    by_cases fine : -1074 < q
    · exact Or.inr (normal.full fine)
    · exact Or.inl (le_antisymm (not_lt.1 fine) normal.atLeast)

/-- The number nearest to a decimal has its proper parts. -/
theorem isNormal_ofDecimal (negative : Bool) (digits : Nat) (exponent : Int) :
    (ofDecimal negative digits exponent).isNormal = true := by
  unfold ofDecimal
  split
  · rfl
  · split
    · rfl
    · have positive : Nat.pow 10 (-exponent).toNat ≠ 0 := (Nat.pow_pos (by decide)).ne'
      cases rounded : ofRatio negative (digits * Nat.pow 10 exponent.toNat)
          (Nat.pow 10 (-exponent).toNat) with
      | nan => rfl
      | infinite sign => rfl
      | finite sign m q => exact isNormal_iff.2 (isNormal_of_ofRatio positive rounded)

theorem head?_unsignedText (number : Binary64) : number.unsignedText.head? ≠ some '-' := by
  have nanNoSign : "nan".toList.head? ≠ some '-' := by decide
  have infNoSign : "inf".toList.head? ≠ some '-' := by decide
  intro signed
  obtain ⟨rest, isText⟩ := List.head?_eq_some_iff.1 signed
  cases number with
  | nan => exact absurd signed nanNoSign
  | infinite negative => exact absurd signed infNoSign
  | finite negative m q =>
      obtain ⟨value, denoted, -⟩ := exists_denoted m q
      rw [unsignedText] at isText
      rw [isText] at denoted
      cases denoted

theorem unsignedText_injective {first second : Binary64} (normal : first.isNormal = true)
    (otherNormal : second.isNormal = true) (sameSign : first.isSigned = second.isSigned)
    (same : first.unsignedText = second.unsignedText) : first = second := by
  have notWord : ∀ (m : Nat) (q : Int) (word : List Char), denoted? word = none →
      magnitudeText m q ≠ word := by
    rintro m q word denotesNothing rfl
    obtain ⟨value, denoted, -⟩ := exists_denoted m q
    rw [denotesNothing] at denoted
    cases denoted
  have nanDenotes : denoted? "nan".toList = none := rfl
  have infDenotes : denoted? "inf".toList = none := rfl
  have differentWords : "nan".toList ≠ "inf".toList := by decide
  cases first with
  | nan =>
      cases second with
      | nan => rfl
      | infinite negative => exact absurd same differentWords
      | finite negative m q => exact absurd same.symm (notWord m q _ nanDenotes)
  | infinite negative =>
      cases second with
      | nan => exact absurd same.symm differentWords
      | infinite otherNegative =>
          obtain rfl : negative = otherNegative := sameSign
          rfl
      | finite negative m q => exact absurd same.symm (notWord m q _ infDenotes)
  | finite negative m q =>
      cases second with
      | nan => exact absurd same (notWord m q _ nanDenotes)
      | infinite otherNegative => exact absurd same (notWord m q _ infDenotes)
      | finite otherNegative n r =>
          obtain ⟨rfl, rfl⟩ := magnitudeText_injective (isNormal_iff.1 normal)
            (isNormal_iff.1 otherNormal) same
          obtain rfl : negative = otherNegative := sameSign
          rfl

/-- Different numbers have different texts. -/
theorem text_injective {first second : Binary64} (normal : first.isNormal = true)
    (otherNormal : second.isNormal = true)
    (same : first.text "nan" "inf" = second.text "nan" "inf") : first = second := by
  have noSign := head?_unsignedText first
  have otherNoSign := head?_unsignedText second
  rw [text_eq, text_eq] at same
  cases signed : first.isSigned with
  | false =>
      cases otherSigned : second.isSigned with
      | false =>
          rw [signed, otherSigned] at same
          exact unsignedText_injective normal otherNormal (signed.trans otherSigned.symm) same
      | true =>
          rw [signed, otherSigned] at same
          exact absurd (congrArg List.head? same) noSign
  | true =>
      cases otherSigned : second.isSigned with
      | false =>
          rw [signed, otherSigned] at same
          exact absurd (congrArg List.head? same).symm otherNoSign
      | true =>
          rw [signed, otherSigned] at same
          exact unsignedText_injective normal otherNormal (signed.trans otherSigned.symm)
            (List.append_cancel_left same)

end ApiTools.Binary64
