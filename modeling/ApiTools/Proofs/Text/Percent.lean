import ApiTools.Proofs.Text.Utf8
import ApiTools.Text.Percent

/-!
# Reading percent encodings

An encoding is read back as the text, unless the text holds escapes of its own and percent signs
stay: each such escape is read as a single byte, and the text read is shorter than the text written.
-/

namespace ApiTools.Text.Percent

/-! ## Hexadecimal digits -/

theorem hexValue?_hexDigit (value : Nat) (small : value < 16) :
    hexValue? (hexDigit value) = some value := by
  have digits : ∀ digit : Fin 16, hexValue? (hexDigit digit.val) = some digit.val := by decide
  exact digits ⟨value, small⟩

theorem hexValue?_percent : hexValue? '%' = none := by decide

/-- The text goes on with two hexadecimal digits. -/
def startsWithHex : List Char → Bool
  | high :: low :: _ => (hexValue? high).isSome && (hexValue? low).isSome
  | _ => false

/-- Somewhere in the text a percent sign is followed by two hexadecimal digits. -/
def hasEscape : List Char → Bool
  | [] => false
  | c :: rest => (c = '%' && startsWithHex rest) || hasEscape rest

/-! ## Bytes of an encoding -/

theorem encode_cons (stays : Char → Bool) (c : Char) (rest : List Char) :
    encode stays (c :: rest) =
      (if stays c then [c] else (Utf8.encodeChar c).flatMap encodeByte) ++ encode stays rest := by
  rw [encode, List.flatMap_cons, ← encode]

theorem bytes_escape {high low : Char} {first second : Nat} (rest : List Char)
    (isHigh : hexValue? high = some first) (isLow : hexValue? low = some second) :
    bytes ('%' :: high :: low :: rest) = UInt8.ofNat (16 * first + second) :: bytes rest := by
  rw [bytes, isHigh, isLow]

theorem bytes_cons {c : Char} {rest : List Char}
    (plain : (c = '%' && startsWithHex rest) = false) :
    bytes (c :: rest) = Utf8.encodeChar c ++ bytes rest := by
  by_cases isPercent : c = '%'
  · subst isPercent
    rw [decide_eq_true rfl, Bool.true_and] at plain
    match rest with
    | [] => rfl
    | [_] => rfl
    | high :: low :: others =>
        rw [bytes]
        cases isHigh : hexValue? high with
        | none => rfl
        | some first =>
            cases isLow : hexValue? low with
            | none => rfl
            | some second => simp [startsWithHex, isHigh, isLow] at plain
  · rw [bytes]
    intro high low others isEscape
    exact absurd isEscape isPercent

theorem bytes_encodeByte (byte : UInt8) (rest : List Char) :
    bytes (encodeByte byte ++ rest) = byte :: bytes rest := by
  have bound := byte.toNat_lt
  have isHigh := hexValue?_hexDigit (byte.toNat / 16) (by omega)
  have isLow := hexValue?_hexDigit (byte.toNat % 16) (by omega)
  rw [encodeByte, List.cons_append, List.cons_append, List.cons_append, List.nil_append,
    bytes_escape rest isHigh isLow, Nat.div_add_mod, UInt8.ofNat_toNat]

theorem bytes_flatMap_encodeByte (written : List UInt8) (rest : List Char) :
    bytes (written.flatMap encodeByte ++ rest) = written ++ bytes rest := by
  induction written with
  | nil => rfl
  | cons byte others inductionHypothesis =>
      rw [List.flatMap_cons, List.append_assoc, bytes_encodeByte, inductionHypothesis,
        List.cons_append]

theorem exists_flatMap_encodeByte (c : Char) :
    ∃ rest, (Utf8.encodeChar c).flatMap encodeByte = '%' :: rest := by
  unfold Utf8.encodeChar
  dsimp only
  repeat' split
  all_goals exact ⟨_, rfl⟩

section

variable {stays : Char → Bool}

/-- Encoding neither makes nor breaks an escape. -/
theorem startsWithHex_encode (hexStays : ∀ c, (hexValue? c).isSome = true → stays c = true)
    (text : List Char) : startsWithHex (encode stays text) = startsWithHex text := by
  have startsWithPercent : ∀ rest, startsWithHex ('%' :: rest) = false := by
    intro rest
    cases rest with
    | nil => rfl
    | cons low others => rw [startsWithHex, hexValue?_percent]; rfl
  have notHex : ∀ {c : Char}, stays c = false → (hexValue? c).isSome = false := by
    intro c leaves
    cases isHex : (hexValue? c).isSome with
    | false => rfl
    | true => rw [hexStays c isHex] at leaves; cases leaves
  match text with
  | [] => rfl
  | [c] =>
      rw [encode_cons]
      cases kept : stays c with
      | true => rfl
      | false =>
          obtain ⟨rest, written⟩ := exists_flatMap_encodeByte c
          rw [if_neg (by decide), written]
          exact startsWithPercent _
  | high :: low :: others =>
      rw [encode_cons]
      cases highKept : stays high with
      | false =>
          obtain ⟨rest, written⟩ := exists_flatMap_encodeByte high
          rw [if_neg (by decide), written, startsWithHex, notHex highKept, Bool.false_and]
          exact startsWithPercent _
      | true =>
          rw [if_pos rfl, List.singleton_append, encode_cons]
          cases lowKept : stays low with
          | false =>
              obtain ⟨rest, written⟩ := exists_flatMap_encodeByte low
              rw [if_neg (by decide), written, List.cons_append, startsWithHex, startsWithHex,
                notHex lowKept, hexValue?_percent]
              rfl
          | true => rfl

/-- A character is read back from its encoding, unless it stays and begins an escape. -/
theorem bytes_encode_cons (hexStays : ∀ c, (hexValue? c).isSome = true → stays c = true)
    {c : Char} {rest : List Char}
    (plain : stays c = true → (c = '%' && startsWithHex rest) = false) :
    bytes (encode stays (c :: rest)) = Utf8.encodeChar c ++ bytes (encode stays rest) := by
  rw [encode_cons]
  cases kept : stays c with
  | false =>
      rw [if_neg (by decide)]
      exact bytes_flatMap_encodeByte _ _
  | true =>
      rw [if_pos rfl, List.singleton_append]
      refine bytes_cons ?_
      rw [startsWithHex_encode hexStays]
      exact plain kept

/-- Without escapes in it a text is written as its own bytes. -/
theorem bytes_encode (hexStays : ∀ c, (hexValue? c).isSome = true → stays c = true)
    {text : List Char} (plain : stays '%' = true → hasEscape text = false) :
    bytes (encode stays text) = Utf8.encode text := by
  induction text with
  | nil => rfl
  | cons c rest inductionHypothesis =>
      rw [bytes_encode_cons hexStays, inductionHypothesis, Utf8.encode, Utf8.encode,
        List.flatMap_cons]
      · intro percentStays
        have noEscape := plain percentStays
        rw [hasEscape, Bool.or_eq_false_iff] at noEscape
        exact noEscape.2
      · intro kept
        by_cases isPercent : c = '%'
        · subst isPercent
          have noEscape := plain kept
          rw [hasEscape, Bool.or_eq_false_iff] at noEscape
          exact noEscape.1
        · simp [isPercent]

/-- What is read from an encoding has no more characters than the text, and fewer where the text
holds escapes that stay. -/
theorem flushed_foldl_length_le (hexStays : ∀ c, (hexValue? c).isSome = true → stays c = true)
    (percentStays : stays '%' = true) (text : List Char) :
    ∀ {decoder : Utf8.Decoder}, decoder.IsSound →
      ((bytes (encode stays text)).foldl Utf8.Decoder.step decoder).flushed.length +
          (if hasEscape text then 1 else 0) ≤ decoder.flushed.length + text.length := by
  induction size : text.length using Nat.strongRecOn generalizing text with
  | ind size inductionHypothesis =>
      intro decoder sound
      cases text with
      | nil => simp [encode, bytes, hasEscape]
      | cons c rest =>
          cases escapes : c = '%' && startsWithHex rest with
          | false =>
              rw [bytes_encode_cons hexStays (fun _ => escapes), List.foldl_append,
                Utf8.Decoder.foldl_step_encodeChar sound, hasEscape, escapes, Bool.false_or]
              have flushed : Utf8.Decoder.IsSound ⟨c :: decoder.flushed, none⟩ :=
                Utf8.Decoder.isSound_of_pending_eq_none
              have shorter :=
                inductionHypothesis rest.length (by simp at size; omega) rest rfl flushed
              rw [Utf8.Decoder.flushed_of_none, List.length_cons] at shorter
              simp only [List.length_cons] at size
              omega
          | true =>
              rw [Bool.and_eq_true, decide_eq_true_eq] at escapes
              obtain ⟨rfl, isHex⟩ := escapes
              match rest with
              | high :: low :: others =>
                  rw [startsWithHex, Bool.and_eq_true] at isHex
                  obtain ⟨first, isHigh⟩ := Option.isSome_iff_exists.1 isHex.1
                  obtain ⟨second, isLow⟩ := Option.isSome_iff_exists.1 isHex.2
                  have written : encode stays ('%' :: high :: low :: others) =
                      '%' :: high :: low :: encode stays others := by
                    rw [encode_cons, encode_cons, encode_cons, if_pos percentStays,
                      if_pos (hexStays high isHex.1), if_pos (hexStays low isHex.2)]
                    rfl
                  rw [written, bytes_escape _ isHigh isLow, List.foldl_cons]
                  have shorter := inductionHypothesis others.length (by simp at size; omega) others
                    rfl (Utf8.Decoder.isSound_step decoder (UInt8.ofNat (16 * first + second)))
                  have oneMore := Utf8.Decoder.flushed_step_length_le decoder
                    (UInt8.ofNat (16 * first + second))
                  simp only [List.length_cons] at size
                  split <;> omega

theorem decode_encode_length_le
    (hexStays : ∀ c, (hexValue? c).isSome = true → stays c = true)
    (percentStays : stays '%' = true) (text : List Char) :
    (decode (encode stays text)).length + (if hasEscape text then 1 else 0) ≤ text.length := by
  have bound := flushed_foldl_length_le hexStays percentStays text Utf8.Decoder.isSound_start
  rw [decode, Utf8.decode, Utf8.Decoder.finish_eq, List.length_reverse]
  simpa [Utf8.Decoder.start, Utf8.Decoder.flushed_of_none] using bound

/-- Where percent signs stay, a text is read back exactly if it holds no escapes. -/
theorem decode_encode_eq_iff (hexStays : ∀ c, (hexValue? c).isSome = true → stays c = true)
    (percentStays : stays '%' = true) (text : List Char) :
    decode (encode stays text) = text ↔ hasEscape text = false := by
  constructor
  · intro same
    have bound := decode_encode_length_le hexStays percentStays text
    rw [same] at bound
    cases escapes : hasEscape text with
    | false => rfl
    | true =>
        rw [escapes, if_pos rfl] at bound
        omega
  · intro plain
    rw [decode, bytes_encode hexStays (fun _ => plain), Utf8.decode_encode]

end

/-! ## Values within a path -/

theorem isAlphanum_iff {c : Char} :
    c.isAlphanum = true ↔ ('A'.val ≤ c.val ∧ c.val ≤ 'Z'.val) ∨
      ('a'.val ≤ c.val ∧ c.val ≤ 'z'.val) ∨ ('0'.val ≤ c.val ∧ c.val ≤ '9'.val) := by
  have spelled : c.isAlphanum = (decide ('A'.val ≤ c.val ∧ c.val ≤ 'Z'.val) ||
      (decide ('a'.val ≤ c.val) && decide (c.val ≤ 'z'.val)) ||
      (decide ('0'.val ≤ c.val) && decide (c.val ≤ '9'.val))) := rfl
  simp only [spelled, Bool.or_eq_true, Bool.and_eq_true, decide_eq_true_eq, or_assoc]

theorem isUnreserved_of_hexValue? {c : Char} (isHex : (hexValue? c).isSome = true) :
    isUnreserved c = true := by
  have isAlphanum : c.isAlphanum = true := by
    unfold hexValue? at isHex
    simp only [Char.le_def] at isHex
    rw [isAlphanum_iff]
    split at isHex
    · next digit => exact Or.inr (Or.inr digit)
    split at isHex
    · next lower => exact Or.inr (Or.inl ⟨lower.1, UInt32.le_trans lower.2 (by decide)⟩)
    split at isHex
    · next upper => exact Or.inl ⟨upper.1, UInt32.le_trans upper.2 (by decide)⟩
    · cases isHex
  rw [isUnreserved, isAlphanum]
  rfl

/-- Every text is read back from its form within a path. -/
theorem decode_encodeComponent (text : List Char) : decode (encodeComponent text) = text := by
  rw [decode, encodeComponent, bytes_encode, Utf8.decode_encode]
  · intro c isHex
    rw [isUnreserved_of_hexValue? isHex, Bool.true_or]
  · intro percentStays
    exact absurd percentStays (by decide)

end ApiTools.Text.Percent
