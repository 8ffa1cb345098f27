/-!
# Punycode

Texts in ASCII letters, digits and hyphens. The ASCII characters come first as they are. The others
follow as the steps of a walk: from the least code point beyond ASCII upward, and for each code
point through the places where it could stand. The number of steps from one insertion to the next is
written in digits of varying weight, which adapt to the steps so far.
-/

namespace ApiTools.Text.Punycode

/-- The digit of a value below 36: a letter, then a decimal digit. -/
def digit (value : Nat) : Char :=
  if value < 26 then Char.ofNat ('a'.toNat + value) else Char.ofNat ('0'.toNat + (value - 26))

/-- The least value of a digit after which another one follows. -/
def threshold (bias position : Nat) : Nat :=
  min 26 (max 1 (position - bias))

/-- A number in digits of varying weight, from the digit at a position on. -/
def number (bias position size : Nat) : List Char :=
  let least := threshold bias position
  if size < least then [digit size]
  else
    digit (least + (size - least) % (36 - least)) ::
      number bias (position + 36) ((size - least) / (36 - least))
termination_by size
decreasing_by
  have positive : 1 ≤ threshold bias position := by unfold threshold; omega
  have quotient := Nat.div_le_self (size - threshold bias position) (36 - threshold bias position)
  omega

/-- The bias for a number of steps that is divided by 35 until it is small; `bias` grows with every
division. -/
def reducedBias (bias steps : Nat) : Nat :=
  if 455 < steps then reducedBias (bias + 36) (steps / 35)
  else bias + 36 * steps / (steps + 38)
termination_by steps
decreasing_by omega

/-- The bias after a number of steps, when so many characters are in place. -/
def adapted (isFirst : Bool) (steps count : Nat) : Nat :=
  let damped := if isFirst then steps / 700 else steps / 2
  reducedBias 0 (damped + damped / count)

/-- The walk at a place: the digits so far, last one first, the steps since the last insertion, the
bias, and how many characters are in place. -/
structure Walk where
  digits : List Char
  steps : Nat
  bias : Nat
  count : Nat
  isFirst : Bool

namespace Walk

/-- Passes a character of the text while a code point is being inserted. -/
def pass (code : Nat) (walk : Walk) (c : Char) : Walk :=
  if c.toNat < code then { walk with steps := walk.steps + 1 }
  else if c.toNat = code then
    { digits := (number walk.bias 36 walk.steps).reverse ++ walk.digits
      steps := 0
      bias := adapted walk.isFirst walk.steps (walk.count + 1)
      count := walk.count + 1
      isFirst := false }
  else walk

/-- Inserts all code points, ascending, from one on that has not been looked at. -/
def insert (text : List Char) : Walk → (next : Nat) → List Nat → Walk
  | walk, _, [] => walk
  | walk, next, code :: rest =>
    let start := { walk with steps := walk.steps + (code - next) * (walk.count + 1) }
    let after := text.foldl (pass code) start
    insert text { after with steps := after.steps + 1 } (code + 1) rest

end Walk

/-- A text with the characters beyond ASCII written at its end. -/
def encode (text : List Char) : List Char :=
  let plain := text.filter fun c => c.toNat < 0x80
  let codes := ((text.filter fun c => 0x80 ≤ c.toNat).map Char.toNat).eraseDups.mergeSort
  let walk := Walk.insert text ⟨[], 0, 72, plain.length, true⟩ 0x80 codes
  plain ++ (if plain.isEmpty then [] else ['-']) ++ walk.digits.reverse

end ApiTools.Text.Punycode
