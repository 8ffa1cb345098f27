import ApiTools.Text.Digit
import ApiTools.Text.Utf8

/-!
# Percent encoding

Characters that may not stand in a part of an address are written as the bytes of their UTF-8 form,
each as `%` and two hexadecimal digits. Which characters stay depends on the part.
-/

namespace ApiTools.Text.Percent

/-- The upper-case digit of a value below 16. -/
def hexDigit (value : Nat) : Char :=
  if value < 10 then Char.ofNat ('0'.toNat + value) else Char.ofNat ('A'.toNat + (value - 10))

/-- A byte as `%` and two digits. -/
def encodeByte (byte : UInt8) : List Char :=
  ['%', hexDigit (byte.toNat / 16), hexDigit (byte.toNat % 16)]

/-- The text with every character encoded that does not stay. -/
def encode (stays : Char → Bool) (text : List Char) : List Char :=
  text.flatMap fun c =>
    if stays c then [c] else (Utf8.encodeChar c).flatMap encodeByte

/-- ASCII letters, digits and `_.-~` stay in every part of an address. -/
def isUnreserved (c : Char) : Bool :=
  c.isAlphanum || c == '_' || c == '.' || c == '-' || c == '~'

/-- A value within a path: `!*'()` stay too. -/
def encodeComponent (text : List Char) : List Char :=
  encode (fun c => isUnreserved c || "!*'()".toList.contains c) text

/-- A key or value of a form: spaces become `+`. -/
def encodeForm (text : List Char) : List Char :=
  text.flatMap fun c => if c = ' ' then ['+'] else encode isUnreserved [c]

/-- The pairs of a form, joined by `&`. -/
def encodePairs (pairs : List (List Char × List Char)) : List Char :=
  ['&'].intercalate (pairs.map fun pair => encodeForm pair.1 ++ '=' :: encodeForm pair.2)

/-! ## Reading -/

/-- The bytes of an encoded text. A `%` without two hexadecimal digits after it stands for
itself. -/
def bytes : List Char → List UInt8
  | [] => []
  | '%' :: high :: low :: rest =>
    match hexValue? high, hexValue? low with
    | some first, some second => UInt8.ofNat (16 * first + second) :: bytes rest
    | _, _ => Utf8.encodeChar '%' ++ bytes (high :: low :: rest)
  | c :: rest => Utf8.encodeChar c ++ bytes rest

/-- The text that was encoded. -/
def decode (text : List Char) : List Char :=
  Utf8.decode (bytes text)

end ApiTools.Text.Percent
