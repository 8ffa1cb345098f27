/-!
# Base64

Bytes as text in the alphabet of 64 characters, three bytes in four characters. A last group of one
or two bytes is filled up with `=`.
-/

namespace ApiTools.Text.Base64

/-- The character of a value below 64. -/
def digit (value : Nat) : Char :=
  if value < 26 then Char.ofNat ('A'.toNat + value)
  else if value < 52 then Char.ofNat ('a'.toNat + (value - 26))
  else if value < 62 then Char.ofNat ('0'.toNat + (value - 52))
  else if value = 62 then '+'
  else '/'

/-- The text of some bytes. -/
def encode : List UInt8 → List Char
  | [] => []
  | [first] =>
    let bits := first.toNat * 16
    [digit (bits / 64), digit (bits % 64), '=', '=']
  | [first, second] =>
    let bits := (first.toNat * 256 + second.toNat) * 4
    [digit (bits / 4096), digit (bits / 64 % 64), digit (bits % 64), '=']
  | first :: second :: third :: rest =>
    let bits := (first.toNat * 256 + second.toNat) * 256 + third.toNat
    digit (bits / 262144) :: digit (bits / 4096 % 64) :: digit (bits / 64 % 64) ::
      digit (bits % 64) :: encode rest

/-- Every group of three bytes, also an unfinished one, takes four characters. -/
theorem length_encode (bytes : List UInt8) :
    (encode bytes).length = 4 * ((bytes.length + 2) / 3) := by
  fun_induction encode bytes with
  | case1 => rfl
  | case2 => simp
  | case3 => simp
  | case4 first second third rest bits hypothesis =>
      simp only [List.length_cons, hypothesis]
      omega

end ApiTools.Text.Base64
