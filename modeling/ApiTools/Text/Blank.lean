import ApiTools.Text.Ranges

/-!
# Blanks

White space over Unicode 14, with the four information separators U+001C to U+001F. The zero-width
space and the byte order mark are not blank.
-/

namespace ApiTools.Text

/-- White space and the information separators. -/
def blankRanges : List (Nat × Nat) := [
  (0x9, 0xD), (0x1C, 0x20), (0x85, 0x85), (0xA0, 0xA0), (0x1680, 0x1680), (0x2000, 0x200A),
  (0x2028, 0x2029), (0x202F, 0x202F), (0x205F, 0x205F), (0x3000, 0x3000)]

/-- White space or an information separator. -/
def isBlank (c : Char) : Bool :=
  inRanges blankRanges c

/-- The text without blanks at its start. -/
def trimLeft (text : List Char) : List Char :=
  text.dropWhile isBlank

/-- The text without blanks at its end. -/
def trimRight (text : List Char) : List Char :=
  (text.reverse.dropWhile isBlank).reverse

/-- The text without blanks at either end. -/
def trim (text : List Char) : List Char :=
  trimRight (trimLeft text)

end ApiTools.Text
