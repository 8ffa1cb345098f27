import ApiTools.Text.Utf8

/-!
# Reading what was written

A character that was written is read back, whatever was under way before it: its first byte
continues nothing. Every byte adds at most one character.
-/

namespace ApiTools.Text.Utf8

theorem toNat_ofNat_of_lt {value : Nat} (small : value < 256) :
    (UInt8.ofNat value).toNat = value := by
  rw [UInt8.toNat_ofNat']
  exact Nat.mod_eq_of_lt small

theorem toNat_continuation (bits : Nat) : (continuation bits).toNat = 0x80 + bits % 0x40 :=
  toNat_ofNat_of_lt (by omega)

/-- The numbers of characters. -/
theorem isValid_toNat (c : Char) : c.toNat < 0xD800 ∨ (0xDFFF < c.toNat ∧ c.toNat < 0x110000) := by
  have valid := c.valid
  simpa [UInt32.isValidChar, Nat.isValidChar] using valid

namespace Decoder

/-- The characters so far, last one first, where an unfinished one counts as a replacement
character. -/
def flushed (decoder : Decoder) : List Char :=
  match decoder.pending with
  | none => decoder.chars
  | some _ => '\uFFFD' :: decoder.chars

/-- Only bytes of the form `10xxxxxx` continue what is under way. -/
def IsSound (decoder : Decoder) : Prop :=
  ∀ part, decoder.pending = some part → 0x80 ≤ part.low ∧ part.high ≤ 0xBF

theorem finish_eq (decoder : Decoder) : decoder.finish = decoder.flushed.reverse := by
  unfold finish flushed
  cases decoder.pending <;> rfl

theorem isSound_start : start.IsSound := by
  intro part pending
  cases pending

theorem isSound_of_pending_eq_none {chars : List Char} : IsSound ⟨chars, none⟩ := by
  intro part pending
  cases pending

theorem isSound_of_pending_eq_some {chars : List Char} {part : Partial}
    (bounds : 0x80 ≤ part.low ∧ part.high ≤ 0xBF) : IsSound ⟨chars, some part⟩ := by
  intro other pending
  exact Option.some.inj pending ▸ bounds

theorem isSound_stepFirst (chars : List Char) (byte : Nat) : (stepFirst chars byte).IsSound := by
  unfold stepFirst
  split
  · exact isSound_of_pending_eq_none
  split
  · exact isSound_of_pending_eq_none
  split
  · exact isSound_of_pending_eq_some ⟨Nat.le_refl _, Nat.le_refl _⟩
  split
  · refine isSound_of_pending_eq_some ⟨?_, ?_⟩ <;> dsimp only <;> split <;> decide
  split
  · refine isSound_of_pending_eq_some ⟨?_, ?_⟩ <;> dsimp only <;> split <;> decide
  · exact isSound_of_pending_eq_none

theorem step_of_continues {chars : List Char} {part : Partial} {byte : UInt8}
    (continues : part.low ≤ byte.toNat ∧ byte.toNat ≤ part.high) :
    step ⟨chars, some part⟩ byte =
      if part.owed ≤ 1 then ⟨Char.ofNat (part.code * 0x40 + (byte.toNat - 0x80)) :: chars, none⟩
      else ⟨chars, some ⟨part.code * 0x40 + (byte.toNat - 0x80), part.owed - 1, 0x80, 0xBF⟩⟩ := by
  unfold step
  dsimp only
  rw [if_pos continues]

theorem step_of_breaks {chars : List Char} {part : Partial} {byte : UInt8}
    (breaks : ¬ (part.low ≤ byte.toNat ∧ byte.toNat ≤ part.high)) :
    step ⟨chars, some part⟩ byte = stepFirst ('\uFFFD' :: chars) byte.toNat := by
  unfold step
  dsimp only
  rw [if_neg breaks]

theorem isSound_step (decoder : Decoder) (byte : UInt8) : (decoder.step byte).IsSound := by
  obtain ⟨chars, pending⟩ := decoder
  cases pending with
  | none => exact isSound_stepFirst chars byte.toNat
  | some part =>
      by_cases continues : part.low ≤ byte.toNat ∧ byte.toNat ≤ part.high
      · rw [step_of_continues continues]
        split
        · exact isSound_of_pending_eq_none
        · exact isSound_of_pending_eq_some ⟨Nat.le_refl _, Nat.le_refl _⟩
      · rw [step_of_breaks continues]
        exact isSound_stepFirst _ _

/-! ## The number of characters -/

theorem flushed_of_none (chars : List Char) : flushed ⟨chars, none⟩ = chars := by
  rfl

theorem flushed_of_some (chars : List Char) (part : Partial) :
    flushed ⟨chars, some part⟩ = '\uFFFD' :: chars := by
  rfl

theorem flushed_stepFirst_length (chars : List Char) (byte : Nat) :
    (stepFirst chars byte).flushed.length = chars.length + 1 := by
  unfold stepFirst
  repeat' split
  all_goals simp only [flushed_of_none, flushed_of_some, List.length_cons]

/-- A byte adds at most one character. -/
theorem flushed_step_length_le (decoder : Decoder) (byte : UInt8) :
    (decoder.step byte).flushed.length ≤ decoder.flushed.length + 1 := by
  obtain ⟨chars, pending⟩ := decoder
  cases pending with
  | none => exact Nat.le_of_eq (flushed_stepFirst_length chars byte.toNat)
  | some part =>
      rw [flushed_of_some, List.length_cons]
      by_cases continues : part.low ≤ byte.toNat ∧ byte.toNat ≤ part.high
      · rw [step_of_continues continues]
        split
        · rw [flushed_of_none, List.length_cons]
          omega
        · rw [flushed_of_some, List.length_cons]
          omega
      · rw [step_of_breaks continues]
        exact Nat.le_of_eq (flushed_stepFirst_length _ _)

/-! ## Reading a character -/

/-- A byte that is not of the form `10xxxxxx` is read afresh. -/
theorem step_of_isSound {decoder : Decoder} (sound : decoder.IsSound) {byte : UInt8}
    (leads : byte.toNat < 0x80 ∨ 0xBF < byte.toNat) :
    decoder.step byte = stepFirst decoder.flushed byte.toNat := by
  obtain ⟨chars, pending⟩ := decoder
  cases pending with
  | none => rfl
  | some part =>
      have bounds := sound part rfl
      rw [step_of_breaks (by omega), flushed_of_some]

section

variable {chars : List Char} {code owed low high bits : Nat}

/-- A continuation within the bounds adds its bits to the code. -/
theorem step_continuation (fits : low ≤ 0x80 + bits % 0x40 ∧ 0x80 + bits % 0x40 ≤ high) :
    step ⟨chars, some ⟨code, owed + 2, low, high⟩⟩ (continuation bits) =
      ⟨chars, some ⟨code * 0x40 + bits % 0x40, owed + 1, 0x80, 0xBF⟩⟩ := by
  rw [← toNat_continuation] at fits
  rw [step_of_continues fits, if_neg (by dsimp only; omega), toNat_continuation,
    Nat.add_sub_cancel_left]
  rfl

/-- The last one completes the character. -/
theorem step_continuation_last (fits : low ≤ 0x80 + bits % 0x40 ∧ 0x80 + bits % 0x40 ≤ high) :
    step ⟨chars, some ⟨code, 1, low, high⟩⟩ (continuation bits) =
      ⟨Char.ofNat (code * 0x40 + bits % 0x40) :: chars, none⟩ := by
  rw [← toNat_continuation] at fits
  rw [step_of_continues fits, if_pos (Nat.le_refl 1), toNat_continuation, Nat.add_sub_cancel_left]

end

/-- The bytes of a character are read as that character. -/
theorem foldl_step_encodeChar {decoder : Decoder} (sound : decoder.IsSound) (c : Char) :
    (encodeChar c).foldl step decoder = ⟨c :: decoder.flushed, none⟩ := by
  have valid := isValid_toNat c
  have back : Char.ofNat c.toNat = c := Char.ofNat_toNat c
  unfold encodeChar
  dsimp only
  split
  · next small =>
      have first : (UInt8.ofNat c.toNat).toNat = c.toNat := toNat_ofNat_of_lt (by omega)
      rw [List.foldl_cons, List.foldl_nil, step_of_isSound sound (by omega), first, stepFirst,
        if_pos small, back]
  split
  · next notSmall small =>
      have first : (UInt8.ofNat (0xC0 + c.toNat / 0x40)).toNat = 0xC0 + c.toNat / 0x40 :=
        toNat_ofNat_of_lt (by omega)
      have whole : (0xC0 + c.toNat / 0x40 - 0xC0) * 0x40 + c.toNat % 0x40 = c.toNat := by omega
      rw [List.foldl_cons, List.foldl_cons, List.foldl_nil, step_of_isSound sound (by omega), first,
        stepFirst, if_neg (by omega), if_neg (by omega), if_pos (by omega),
        step_continuation_last (by omega), whole, back]
  split
  · next notSmaller small =>
      have first : (UInt8.ofNat (0xE0 + c.toNat / 0x1000)).toNat = 0xE0 + c.toNat / 0x1000 :=
        toNat_ofNat_of_lt (by omega)
      have whole : ((0xE0 + c.toNat / 0x1000 - 0xE0) * 0x40 + c.toNat / 0x40 % 0x40) * 0x40 +
          c.toNat % 0x40 = c.toNat := by omega
      rw [List.foldl_cons, List.foldl_cons, List.foldl_cons, List.foldl_nil,
        step_of_isSound sound (by omega), first, stepFirst, if_neg (by omega), if_neg (by omega),
        if_neg (by omega), if_pos (by omega),
        step_continuation (by constructor <;> split <;> omega),
        step_continuation_last (by omega), whole, back]
  · have first : (UInt8.ofNat (0xF0 + c.toNat / 0x40000)).toNat = 0xF0 + c.toNat / 0x40000 :=
      toNat_ofNat_of_lt (by omega)
    have whole : (((0xF0 + c.toNat / 0x40000 - 0xF0) * 0x40 + c.toNat / 0x1000 % 0x40) * 0x40 +
        c.toNat / 0x40 % 0x40) * 0x40 + c.toNat % 0x40 = c.toNat := by omega
    rw [List.foldl_cons, List.foldl_cons, List.foldl_cons, List.foldl_cons, List.foldl_nil,
      step_of_isSound sound (by omega), first, stepFirst, if_neg (by omega), if_neg (by omega),
      if_neg (by omega), if_neg (by omega), if_pos (by omega),
      step_continuation (by constructor <;> split <;> omega),
      step_continuation (by omega), step_continuation_last (by omega), whole, back]

end Decoder

/-- A text is read back from its bytes. -/
theorem foldl_step_encode {decoder : Decoder} (sound : decoder.IsSound) (text : List Char) :
    ((encode text).foldl Decoder.step decoder).flushed = text.reverse ++ decoder.flushed := by
  induction text generalizing decoder with
  | nil => rfl
  | cons c rest inductionHypothesis =>
      rw [encode, List.flatMap_cons, List.foldl_append, Decoder.foldl_step_encodeChar sound,
        ← encode, inductionHypothesis Decoder.isSound_of_pending_eq_none, Decoder.flushed_of_none,
        List.reverse_cons, List.append_assoc, List.singleton_append]

theorem decode_encode (text : List Char) : decode (encode text) = text := by
  rw [decode, Decoder.finish_eq, foldl_step_encode Decoder.isSound_start]
  simp [Decoder.start, Decoder.flushed_of_none]

end ApiTools.Text.Utf8
