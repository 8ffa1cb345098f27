import ApiTools.Text.Blank
import ApiTools.Text.Digit
import Mathlib.Data.Nat.Digits.Defs

/-!
# Digits of any script

Digits are neither blanks nor signs, and a run of them denotes the number with these decimal digits,
the last of which counts ones.
-/

namespace ApiTools.Text

theorem exists_range_of_isDigit {c : Char} (digit : isDigit c = true) :
    ∃ range ∈ digitRanges, range.1 ≤ c.toNat ∧ c.toNat ≤ range.2 := by
  rw [isDigit, digitValue?, Option.isSome_map, List.find?_isSome] at digit
  simpa using digit

/-- No script has a digit among the blanks. -/
theorem isBlank_of_isDigit {c : Char} (digit : isDigit c = true) : isBlank c = false := by
  have apart : ∀ digits ∈ digitRanges, ∀ blanks ∈ blankRanges,
      digits.2 < blanks.1 ∨ blanks.2 < digits.1 := by decide
  obtain ⟨digits, member, above, below⟩ := exists_range_of_isDigit digit
  rw [← Bool.not_eq_true, isBlank, inRanges, List.any_eq_true]
  rintro ⟨blanks, blankMember, inside⟩
  rw [Bool.and_eq_true, decide_eq_true_eq, decide_eq_true_eq] at inside
  have := apart digits member blanks blankMember
  omega

/-- The decimal digits of a number, as they are written, from the last one to the first. -/
def decimalDigits (digits : List Char) : List Nat :=
  digits.reverse.map fun c => (digitValue? c).getD 0

theorem numberOfDigits_eq (digits : List Char) :
    numberOfDigits digits = Nat.ofDigits 10 (decimalDigits digits) := by
  rw [numberOfDigits, decimalDigits, ← List.foldr_reverse, Nat.ofDigits_eq_foldr, List.foldr_map]
  simp only [Nat.cast_id, Nat.add_comm]

/-! ## Digits in ASCII -/

theorem digitValue?_of_ascii {c : Char} (ascii : c.isDigit = true) :
    digitValue? c = some (c.toNat - '0'.toNat) := by
  have bounds : 0x30 ≤ c.toNat ∧ c.toNat ≤ 0x39 := by
    simpa [Char.isDigit, UInt32.le_iff_toNat_le] using ascii
  have zero : '0'.toNat = 0x30 := rfl
  have first : digitRanges.find? (fun range => range.1 ≤ c.toNat && c.toNat ≤ range.2) =
      some (0x30, 0x39) := by
    rw [digitRanges, List.find?_cons_of_pos]
    simpa using bounds
  rw [digitValue?, first, Option.map_some, zero, Nat.mod_eq_of_lt (by omega)]

theorem isDigit_of_ascii {c : Char} (ascii : c.isDigit = true) : isDigit c = true := by
  rw [isDigit, digitValue?_of_ascii ascii]
  rfl

theorem isDigit_of_mem_toDigits {n : Nat} {c : Char} (member : c ∈ Nat.toDigits 10 n) :
    isDigit c = true :=
  isDigit_of_ascii (Nat.isDigit_of_mem_toDigits (by decide) (by decide) member)

theorem numberOfDigits_toDigits (n : Nat) : numberOfDigits (Nat.toDigits 10 n) = n := by
  have same : ∀ (digits : List Char) (start : Nat), (∀ c ∈ digits, c.isDigit = true) →
      digits.foldl (fun total c => 10 * total + (digitValue? c).getD 0) start =
        Nat.ofDigitChars 10 digits start := by
    intro digits
    induction digits with
    | nil => exact fun _ _ => rfl
    | cons c rest inductionHypothesis =>
        intro start areDigits
        rw [List.forall_mem_cons] at areDigits
        rw [List.foldl_cons, Nat.ofDigitChars_cons, digitValue?_of_ascii areDigits.1,
          inductionHypothesis _ areDigits.2]
        rfl
  calc
    numberOfDigits (Nat.toDigits 10 n) = Nat.ofDigitChars 10 (Nat.toDigits 10 n) 0 :=
      same _ 0 fun _ member => Nat.isDigit_of_mem_toDigits (by decide) (by decide) member
    _ = n := Nat.ofDigitChars_ten_toDigits

end ApiTools.Text
