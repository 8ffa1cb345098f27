/-!
# Binary floating-point numbers

The numbers of the binary64 format as exact values `± m * 2 ^ q`, without arithmetic: this library
reads them, compares them and prints them. `Binary64.ofRatio` rounds a quotient of naturals to the
nearest number, a half to the even neighbour.
-/

namespace ApiTools

/-- A binary64 number. A finite one is `± m * 2 ^ q`, where `q` is the least exponent, -1074, or
`m` has its full 53 bits; so equal numbers have equal parts, apart from the sign of zero. -/
inductive Binary64 where
  | nan
  | infinite (negative : Bool)
  | finite (negative : Bool) (m : Nat) (q : Int)
  deriving DecidableEq, Repr

namespace Binary64

/-- Zero with a sign. -/
def zero (negative : Bool) : Binary64 :=
  .finite negative 0 (-1074)

/-- The number is zero, of either sign. -/
def isZero : Binary64 → Bool
  | .finite _ 0 _ => true
  | _ => false

/-! ## Rounding -/

/-- The quotient rounded to the nearest natural, a half to the even neighbour. -/
def roundDiv (num den : Nat) : Nat :=
  let quotient := num / den
  match compare (2 * (num % den)) den with
  | .lt => quotient
  | .gt => quotient + 1
  | .eq => quotient + quotient % 2

/-- `num / den` in units of `2 ^ q`, rounded. -/
def roundAt (num den : Nat) (q : Int) : Nat :=
  roundDiv (num * Nat.pow 2 (-q).toNat) (den * Nat.pow 2 q.toNat)

/-- The exponent of the unit in which `num / den` has 53 bits, but never below the least one. The
logarithms of the parts give it up to one step. -/
def unitOf (num den : Nat) : Int :=
  let estimate : Int := (num.log2 : Int) - (den.log2 : Int) - 53
  let exponent :=
    if num * Nat.pow 2 (-estimate).toNat < Nat.pow 2 53 * (den * Nat.pow 2 estimate.toNat)
    then estimate
    else estimate + 1
  max (-1074) exponent

/-- The number nearest to `num / den`, with a sign; from half a unit above the largest finite
number on it is infinite. -/
def ofRatio (negative : Bool) (num den : Nat) : Binary64 :=
  if num = 0 then zero negative
  else
    let q := unitOf num den
    let m := roundAt num den q
    let (m, q) := if m = Nat.pow 2 53 then (Nat.pow 2 52, q + 1) else (m, q)
    if 971 < q then .infinite negative else .finite negative m q

/-- The number nearest to `digits * 10 ^ exponent`. Numbers far outside the format's range are
answered without computing their powers of ten. -/
def ofDecimal (negative : Bool) (digits : Nat) (exponent : Int) : Binary64 :=
  if digits = 0 ∨ exponent + (digits.log2 / 3 : Nat) < -340 then zero negative
  else if 310 < exponent + (digits.log2 / 4 : Nat) then .infinite negative
  else ofRatio negative (digits * Nat.pow 10 exponent.toNat) (Nat.pow 10 (-exponent).toNat)

/-! ## Comparison -/

/-- The number is an integer: its value, if so. -/
def toInt? : Binary64 → Option Int
  | .finite negative m q =>
    if m % Nat.pow 2 (-q).toNat = 0 then
      let size : Int := (m * Nat.pow 2 q.toNat / Nat.pow 2 (-q).toNat : Nat)
      some (if negative then -size else size)
    else none
  | _ => none

/-- The number is above zero. -/
def isPositive : Binary64 → Bool
  | .nan => false
  | .infinite negative => !negative
  | .finite negative m _ => !negative && m != 0

end Binary64

end ApiTools
