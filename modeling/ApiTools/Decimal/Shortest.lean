import ApiTools.Decimal.Binary64

/-!
# Shortest decimals

The decimal that stands for a binary number: of the decimals that read back as the number it has the
fewest digits, of those it is the nearest, and of two equally near ones its last digit is even.
-/

namespace ApiTools.Binary64

/-- `digits * 10 ^ exponent`. -/
structure Decimal where
  digits : Nat
  exponent : Int
  deriving DecidableEq, Repr

/-- Compares `a * 10 ^ i` with `b * 2 ^ j`. -/
def compareScaled (a : Nat) (i : Int) (b : Nat) (j : Int) : Ordering :=
  compare (a * Nat.pow 10 i.toNat * Nat.pow 2 (-j).toNat)
    (b * Nat.pow 2 j.toNat * Nat.pow 10 (-i).toNat)

/-- The decimal lies among the reals that round to `m * 2 ^ q`. They reach half-way to the
neighbours, which are a unit away, but only half a unit below the start of a binade; the ends belong
to the even numbers. -/
def readsBack (m : Nat) (q : Int) (d : Decimal) : Bool :=
  let lower := if m = Nat.pow 2 52 ∧ -1074 < q then 4 * m - 1 else 4 * m - 2
  let upper := 4 * m + 2
  let closed := m % 2 == 0
  let atLower := compareScaled d.digits d.exponent lower (q - 2)
  let atUpper := compareScaled d.digits d.exponent upper (q - 2)
  (atLower == .gt || (closed && atLower == .eq)) && (atUpper == .lt || (closed && atUpper == .eq))

/-- How many times `10 ^ e` fits into `m * 2 ^ q`. -/
def gridFloor (m : Nat) (q e : Int) : Nat :=
  (m * Nat.pow 2 q.toNat * Nat.pow 10 (-e).toNat) / (Nat.pow 10 e.toNat * Nat.pow 2 (-q).toNat)

/-- The least `k` with `m * 2 ^ q < 10 ^ k`. The binary logarithm gives it up to a step or two. -/
def decimalScale (m : Nat) (q : Int) : Int :=
  let estimate := ((m.log2 : Int) + q) * 30103 / 100000
  ([estimate, estimate + 1, estimate + 2].find? fun k => compareScaled 1 k m q == .gt).getD
    (estimate + 3)

/-- The nearest decimal on the grid of `10 ^ e` that reads back as `m * 2 ^ q`, if one does. -/
def nearestOnGrid? (m : Nat) (q e : Int) : Option Decimal :=
  let low := gridFloor m q e
  match readsBack m q ⟨low, e⟩, readsBack m q ⟨low + 1, e⟩ with
  | false, false => none
  | true, false => some ⟨low, e⟩
  | false, true => some ⟨low + 1, e⟩
  | true, true =>
    match compareScaled (2 * low + 1) e (2 * m) q with
    | .gt => some ⟨low, e⟩
    | .lt => some ⟨low + 1, e⟩
    | .eq => some ⟨low + low % 2, e⟩

/-- The shortest decimal of `m * 2 ^ q`, for positive `m`. Seventeen digits are enough; should none
of these grids have an answer, the exact value would stand. -/
def shortest (m : Nat) (q : Int) : Decimal :=
  let scale := decimalScale m q
  ((List.range 17).findSome? fun (count : Nat) => nearestOnGrid? m q (scale - 1 - count)).getD
    (if 0 ≤ q then ⟨m * Nat.pow 2 q.toNat, 0⟩ else ⟨m * Nat.pow 5 (-q).toNat, q⟩)

/-! ## Layout -/

/-- Digits with a point: the first digit has the place value `10 ^ leading`. Numbers from `1e-4` up
to, but not including, `1e16` are written positionally and always show a fractional part; others
have one digit before the point and an exponent of at least two digits with a sign. -/
def layout (digits : List Char) (leading : Int) : List Char :=
  if -4 ≤ leading ∧ leading < 16 then
    if leading < 0 then
      '0' :: '.' :: (List.replicate (-leading - 1).toNat '0' ++ digits)
    else
      let whole := leading.toNat + 1
      let fraction := digits.drop whole
      digits.take whole ++ List.replicate (whole - digits.length) '0' ++
        '.' :: (if fraction.isEmpty then ['0'] else fraction)
  else
    let fraction := digits.drop 1
    let size := Nat.toDigits 10 leading.natAbs
    digits.take 1 ++ (if fraction.isEmpty then [] else '.' :: fraction) ++
      'e' :: (if leading < 0 then '-' else '+') ::
        (List.replicate (2 - size.length) '0' ++ size)

/-- A finite number without its sign, in the shortest form that reads back. -/
def magnitudeText (m : Nat) (q : Int) : List Char :=
  if m = 0 then ['0', '.', '0']
  else
    let d := shortest m q
    let digits := Nat.toDigits 10 d.digits
    layout (digits.reverse.dropWhile (· == '0')).reverse (d.exponent + digits.length - 1)

/-- How a number is written. The words for the numbers without digits differ between formats. -/
def text (nanWord infinityWord : String) : Binary64 → List Char
  | .nan => nanWord.toList
  | .infinite negative => (if negative then ['-'] else []) ++ infinityWord.toList
  | .finite negative m q => (if negative then ['-'] else []) ++ magnitudeText m q

end ApiTools.Binary64
