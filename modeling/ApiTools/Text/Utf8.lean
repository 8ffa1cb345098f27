/-!
# UTF-8

Characters as bytes and bytes as characters. Reading never fails: bytes that begin no character
become replacement characters, one for every longest part that could still have begun one.
-/

namespace ApiTools.Text.Utf8

/-! ## Writing -/

/-- A byte of the form `10xxxxxx` with the low six bits of a number. -/
def continuation (bits : Nat) : UInt8 :=
  UInt8.ofNat (0x80 + bits % 0x40)

/-- The bytes of a character. -/
def encodeChar (c : Char) : List UInt8 :=
  let code := c.toNat
  if code < 0x80 then [UInt8.ofNat code]
  else if code < 0x800 then [UInt8.ofNat (0xC0 + code / 0x40), continuation code]
  else if code < 0x10000 then
    [UInt8.ofNat (0xE0 + code / 0x1000), continuation (code / 0x40), continuation code]
  else
    [UInt8.ofNat (0xF0 + code / 0x40000), continuation (code / 0x1000),
      continuation (code / 0x40), continuation code]

/-- The bytes of a text. -/
def encode (text : List Char) : List UInt8 :=
  text.flatMap encodeChar

/-! ## Reading -/

/-- The part of a character that has been read: the number its bits make so far, how many bytes are
still to come, and between which bounds the next one has to lie. -/
structure Partial where
  code : Nat
  owed : Nat
  low : Nat
  high : Nat

/-- The decoder between two bytes: the characters so far, last one first, and a character under
way. -/
structure Decoder where
  chars : List Char
  pending : Option Partial

namespace Decoder

/-- Before the first byte. -/
def start : Decoder :=
  ⟨[], none⟩

/-- Takes a byte between characters. -/
def stepFirst (chars : List Char) (byte : Nat) : Decoder :=
  if byte < 0x80 then ⟨Char.ofNat byte :: chars, none⟩
  else if byte < 0xC2 then ⟨'\uFFFD' :: chars, none⟩
  else if byte < 0xE0 then ⟨chars, some ⟨byte - 0xC0, 1, 0x80, 0xBF⟩⟩
  else if byte < 0xF0 then
    ⟨chars, some ⟨byte - 0xE0, 2, if byte = 0xE0 then 0xA0 else 0x80,
      if byte = 0xED then 0x9F else 0xBF⟩⟩
  else if byte < 0xF5 then
    ⟨chars, some ⟨byte - 0xF0, 3, if byte = 0xF0 then 0x90 else 0x80,
      if byte = 0xF4 then 0x8F else 0xBF⟩⟩
  else ⟨'\uFFFD' :: chars, none⟩

/-- Takes a byte. One that does not continue the character under way ends it and is read afresh. -/
def step (decoder : Decoder) (byte : UInt8) : Decoder :=
  let byte := byte.toNat
  match decoder.pending with
  | none => stepFirst decoder.chars byte
  | some part =>
    if part.low ≤ byte ∧ byte ≤ part.high then
      let code := part.code * 0x40 + (byte - 0x80)
      if part.owed ≤ 1 then ⟨Char.ofNat code :: decoder.chars, none⟩
      else ⟨decoder.chars, some ⟨code, part.owed - 1, 0x80, 0xBF⟩⟩
    else stepFirst ('\uFFFD' :: decoder.chars) byte

/-- The characters read, where an unfinished one counts as a replacement character. -/
def finish (decoder : Decoder) : List Char :=
  match decoder.pending with
  | none => decoder.chars.reverse
  | some _ => ('\uFFFD' :: decoder.chars).reverse

end Decoder

/-- The text of a sequence of bytes. -/
def decode (bytes : List UInt8) : List Char :=
  (bytes.foldl Decoder.step Decoder.start).finish

end ApiTools.Text.Utf8
