import ApiTools.Proofs.Text.Percent
import ApiTools.Proofs.Text.Search
import Mathlib.Data.List.Basic

/-!
# Reading forms

A form is cut at the signs `&` and each pair at its first `=`; then a plus sign stands for a space,
and everything else is percent-decoded. Neither sign is written within a key or value, so the pairs
of an encoded form are read back as they were.
-/

namespace ApiTools.Text.Percent

/-- A character of a form, where a plus sign stands for a space. -/
def spaceOfPlus (c : Char) : Char :=
  if c = '+' then ' ' else c

/-- The key or value that a part of a form denotes. -/
def decodeForm (text : List Char) : List Char :=
  decode (text.map spaceOfPlus)

/-- The pairs of a form. What has no `=` is a key without a value. -/
def readPairs (form : List Char) : List (List Char × List Char) :=
  (form.splitOn '&').map fun pair =>
    (decodeForm (before '=' pair), decodeForm ((after? '=' pair).getD []))

/-! ## Characters of an encoding -/

theorem isUnreserved_hexDigit {value : Nat} (small : value < 16) :
    isUnreserved (hexDigit value) = true := by
  have digits : ∀ digit : Fin 16, isUnreserved (hexDigit digit.val) = true := by decide
  exact digits ⟨value, small⟩

theorem mem_encodeByte {byte : UInt8} {c : Char} (member : c ∈ encodeByte byte) :
    c = '%' ∨ isUnreserved c = true := by
  have bound := byte.toNat_lt
  simp only [encodeByte, List.mem_cons, List.not_mem_nil, or_false] at member
  rcases member with rfl | rfl | rfl
  · exact Or.inl rfl
  · exact Or.inr (isUnreserved_hexDigit (by omega))
  · exact Or.inr (isUnreserved_hexDigit (by omega))

theorem mem_encodeForm {text : List Char} {c : Char} (member : c ∈ encodeForm text) :
    c = '+' ∨ c = '%' ∨ isUnreserved c = true := by
  obtain ⟨origin, -, written⟩ := List.mem_flatMap.1 member
  by_cases isSpace : origin = ' '
  · rw [if_pos isSpace] at written
    exact Or.inl (List.mem_singleton.1 written)
  · rw [if_neg isSpace, encode_cons, List.mem_append] at written
    rcases written with here | impossible
    · right
      split at here
      · next stays =>
          rw [List.mem_singleton.1 here]
          exact Or.inr stays
      · obtain ⟨byte, -, inByte⟩ := List.mem_flatMap.1 here
        exact mem_encodeByte inByte
    · cases impossible

theorem notMem_encodeForm {mark : Char} (reserved : isUnreserved mark = false)
    (notPlus : mark ≠ '+') (notPercent : mark ≠ '%') (text : List Char) :
    mark ∉ encodeForm text := by
  intro member
  rcases mem_encodeForm member with isPlus | isPercent | stays
  · exact notPlus isPlus
  · exact notPercent isPercent
  · rw [reserved] at stays
    cases stays

/-! ## Reading back -/

theorem spaceOfPlus_eq_self {c : Char} (known : c = '%' ∨ isUnreserved c = true) :
    spaceOfPlus c = c := by
  have notPlus : c ≠ '+' := by
    rintro rfl
    rcases known with isPercent | stays
    · exact absurd isPercent (by decide)
    · exact absurd stays (by decide)
  exact if_neg notPlus

/-- A character that is written as itself, once spaces stand in place of the plus signs. -/
def staysInForm (c : Char) : Bool :=
  isUnreserved c || c == ' '

theorem map_spaceOfPlus_encodeForm (text : List Char) :
    (encodeForm text).map spaceOfPlus = encode staysInForm text := by
  induction text with
  | nil => rfl
  | cons c rest inductionHypothesis =>
      have first : (if c = ' ' then ['+'] else encode isUnreserved [c]).map spaceOfPlus =
          if staysInForm c then [c] else (Utf8.encodeChar c).flatMap encodeByte := by
        by_cases isSpace : c = ' '
        · subst isSpace
          rfl
        · have sameStays : staysInForm c = isUnreserved c := by simp [staysInForm, isSpace]
          have alone : encode isUnreserved [] = [] := rfl
          rw [if_neg isSpace, encode_cons, alone, List.append_nil, sameStays]
          by_cases stays : isUnreserved c = true
          · rw [if_pos stays, List.map_singleton, spaceOfPlus_eq_self (Or.inr stays)]
          · rw [if_neg stays]
            refine (List.map_congr_left fun written member => ?_).trans (List.map_id _)
            obtain ⟨byte, -, inByte⟩ := List.mem_flatMap.1 member
            exact spaceOfPlus_eq_self (mem_encodeByte inByte)
      calc
        (encodeForm (c :: rest)).map spaceOfPlus
            = (if c = ' ' then ['+'] else encode isUnreserved [c]).map spaceOfPlus ++
                (encodeForm rest).map spaceOfPlus := List.map_append
        _ = encode staysInForm (c :: rest) := by
            rw [first, inductionHypothesis, encode_cons]

theorem decodeForm_encodeForm (text : List Char) : decodeForm (encodeForm text) = text := by
  rw [decodeForm, map_spaceOfPlus_encodeForm, decode, bytes_encode, Utf8.decode_encode]
  · intro c isHex
    rw [staysInForm, isUnreserved_of_hexValue? isHex, Bool.true_or]
  · intro percentStays
    exact absurd percentStays (by decide)

/-- The pairs of an encoded form are read back. -/
theorem readPairs_encodePairs {pairs : List (List Char × List Char)} (filled : pairs ≠ []) :
    readPairs (encodePairs pairs) = pairs := by
  have noEquals : ∀ text, '=' ∉ encodeForm text :=
    notMem_encodeForm (by decide) (by decide) (by decide)
  have noAnd : ∀ text, '&' ∉ encodeForm text :=
    notMem_encodeForm (by decide) (by decide) (by decide)
  have cut : (encodePairs pairs).splitOn '&' =
      pairs.map fun pair => encodeForm pair.1 ++ '=' :: encodeForm pair.2 := by
    apply List.splitOn_intercalate '&'
    · intro written member
      obtain ⟨pair, -, rfl⟩ := List.mem_map.1 member
      simp [noAnd]
    · simpa using filled
  rw [readPairs, cut, List.map_map]
  refine (List.map_congr_left fun pair _ => ?_).trans (List.map_id pairs)
  simp only [Function.comp_apply, before_append_cons (noEquals pair.1),
    after?_append_cons (noEquals pair.1), Option.getD_some, decodeForm_encodeForm]
  rfl

end ApiTools.Text.Percent
