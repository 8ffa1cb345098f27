import ApiTools.Decimal.Binary64
import ApiTools.Text.Blank
import ApiTools.Text.Digit

/-!
# Reading decimals

Texts as floating-point numbers: a sign, digits with a point anywhere among them, an exponent, or
one of the words for infinity and not-a-number in any case. Texts as integers: a sign and digits.
-/

namespace ApiTools.Decimal

open ApiTools.Text

/-- The greatest number of digits of an integer in a text. -/
def digitLimit : Nat := 4300

/-- White space proper, without the information separators. -/
def isWhiteSpace (c : Char) : Bool :=
  isBlank c && !(0x1C ≤ c.toNat && c.toNat ≤ 0x1F)

/-- The text without white space at its ends. -/
def strip (text : List Char) : List Char :=
  ((text.dropWhile isWhiteSpace).reverse.dropWhile isWhiteSpace).reverse

/-- A sign, if the text starts with one, and the rest. -/
def splitSign : List Char → Bool × List Char
  | '-' :: rest => (true, rest)
  | '+' :: rest => (false, rest)
  | rest => (false, rest)

/-- The text without underscores, each of which has to stand between two digits. `afterDigit` says
whether a digit came before. -/
def dropSeparators? : Bool → List Char → Option (List Char)
  | _, [] => some []
  | afterDigit, c :: rest =>
    if c = '_' then
      if afterDigit && (rest.head?.map Char.isDigit).getD false then dropSeparators? false rest
      else none
    else
      (dropSeparators? c.isDigit rest).map (c :: ·)

/-- The exponent after a number's digits: nothing, or a letter, a sign and digits. -/
def exponent? : List Char → Option Int
  | [] => some 0
  | mark :: rest =>
    if mark = 'e' ∨ mark = 'E' then
      let (negative, digits) := splitSign rest
      if digits ≠ [] ∧ digits.all Char.isDigit then
        let size : Int := Nat.ofDigitChars 10 digits 0
        some (if negative then -size else size)
      else none
    else none

/-- A number without a sign: digits, of which some may follow a point, and an exponent. -/
def unsigned? (negative : Bool) (text : List Char) : Option Binary64 :=
  let whole := text.takeWhile Char.isDigit
  let tail := text.dropWhile Char.isDigit
  let (fraction, tail) :=
    match tail with
    | '.' :: rest => (rest.takeWhile Char.isDigit, rest.dropWhile Char.isDigit)
    | rest => ([], rest)
  if whole.isEmpty && fraction.isEmpty then none
  else
    (exponent? tail).map fun exponent =>
      .ofDecimal negative (Nat.ofDigitChars 10 (whole ++ fraction) 0) (exponent - fraction.length)

/-- The number that a text in ASCII denotes. -/
def read? (text : List Char) : Option Binary64 :=
  let (negative, rest) := splitSign text
  let word := String.ofList (rest.map Char.toLower)
  if word = "inf" ∨ word = "infinity" then some (.infinite negative)
  else if word = "nan" then some .nan
  else unsigned? negative rest

/-- A decimal digit of any script as the ASCII digit of the same value. -/
def plainDigit (c : Char) : Char :=
  match digitValue? c with
  | some value => Char.ofNat ('0'.toNat + value)
  | none => c

/-- The text of a number in its plain form: without surrounding white space and underscores between
digits, and with digits of any script as ASCII digits. -/
def plain? (text : List Char) : Option (List Char) :=
  dropSeparators? false ((strip text).map plainDigit)

/-- The number that a text denotes: surrounding white space, digits of any script and underscores
between digits are allowed. -/
def readLoose? (text : List Char) : Option Binary64 :=
  (plain? text).bind read?

/-- The integer that a text denotes, with the same allowances. -/
def readInteger? (text : List Char) : Option Int :=
  (plain? text).bind fun text =>
    let (negative, digits) := splitSign text
    if digits ≠ [] ∧ digits.all Char.isDigit ∧ digits.length ≤ digitLimit then
      let size : Int := Nat.ofDigitChars 10 digits 0
      some (if negative then -size else size)
    else none

end ApiTools.Decimal
