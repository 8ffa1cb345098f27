import ApiTools.ArgType.Issue
import ApiTools.Decimal.Reader
import ApiTools.Text.Search

/-!
# Numbers among arguments

What counts as a number and what as a truth value, when an argument is not of that kind already.
-/

namespace ApiTools.ArgType

open ApiTools.Decimal

/-- The text without its underscores, unless one is at an end or next to another. -/
def dropUnderscores? (text : List Char) : Option (List Char) :=
  if text.head? = some '_' ∨ text.getLast? = some '_' ∨ Text.occursIn ['_', '_'] text then none
  else some (text.filter (· != '_'))

/-! ## Integers -/

/-- A digit from one to nine. -/
def isLeadingDigit (c : Char) : Bool :=
  c.isDigit && c != '0'

/-- The text from where its number starts, after a zero and perhaps more zeros and underscores, of
which `last` is the one before: at a sign, at a digit from one to nine, or at the character before a
point. Zeros alone come down to the last one. -/
def afterZeros? (last : Char) : List Char → Option (List Char)
  | [] => some [last]
  | c :: rest =>
    if c = '0' ∨ c = '_' then afterZeros? c rest
    else if c = '-' ∨ isLeadingDigit c then some (c :: rest)
    else if c = '.' then some (last :: c :: rest)
    else none

/-- The text without leading zeros. A plus sign may come before them, and a minus sign before or
after them, but not both signs. -/
def significant? (text : List Char) : Option (List Char) :=
  match text with
  | '+' :: '-' :: _ => none
  | '+' :: rest => unsigned rest
  | text => unsigned text
where
  /-- The text without leading zeros, of a text without a plus sign. -/
  unsigned : List Char → Option (List Char)
    | '0' :: rest => afterZeros? '0' rest
    | c :: rest => if c = '-' ∨ isLeadingDigit c then some (c :: rest) else none
    | [] => none

/-- The text without a fraction of zeros. A point alone is no fraction. -/
def dropZeroFraction (text : List Char) : List Char :=
  match Text.after? '.' text with
  | some fraction =>
    if !fraction.isEmpty && fraction.all (· == '0') then Text.before '.' text else text
  | none => text

/-- The size of an integer in digits without leading zeros. -/
def sizeOfDigits (text : List Char) : Except Complaint Nat :=
  let digits := text.takeWhile Char.isDigit
  match text with
  | [] => .error .unreadableInteger
  | ['0'] => .ok 0
  | c :: _ =>
    if !isLeadingDigit c then .error .unreadableInteger
    else if digitLimit < digits.length then .error .overlongInteger
    else if digits.length < text.length then .error .unreadableInteger
    else .ok (Nat.ofDigitChars 10 digits 0)

/-- The integer that a text denotes, or what is wrong with it: digits, perhaps with single
underscores, a sign, leading zeros and a fraction of zeros, all between white space. -/
def integerOfText (text : List Char) : Except Complaint Int :=
  match significant? (strip text) with
  | none => .error .unreadableInteger
  | some significant =>
    let whole := dropZeroFraction significant
    match (dropUnderscores? whole).getD whole with
    | '-' :: digits => (sizeOfDigits digits).map fun size => -(size : Int)
    | digits => (sizeOfDigits digits).map fun size => (size : Int)

/-! ## Numbers and truth values -/

/-- The floating-point number that a text denotes. -/
def floatOfText? (text : List Char) : Option Binary64 :=
  match read? (strip text) with
  | some value => some value
  | none => (dropUnderscores? text).bind read?

/-- The number that a text denotes, an integer if possible; or what is wrong with it as an
integer. -/
def numberOfText (text : List Char) : Except Complaint Json :=
  match integerOfText text, floatOfText? text with
  | .ok value, _ => .ok (.int value)
  | .error _, some value => .ok (.float value)
  | .error complaint, none => .error complaint

/-- The integer has 64 bits with its sign. -/
def isWord (value : Int) : Bool :=
  -9223372036854775808 ≤ value && value ≤ 9223372036854775807

/-- The truth value that an integer denotes. -/
def flagOfInt (value : Int) : Except Complaint Bool :=
  if value = 0 then .ok false
  else if value = 1 then .ok true
  else .error .unreadableFlag

/-- The truth value that a word denotes. -/
def flagOfText? (text : List Char) : Option Bool :=
  let word := String.ofList (text.map Char.toLower)
  if ["1", "true", "t", "yes", "y", "on"].contains word then some true
  else if ["0", "false", "f", "no", "n", "off"].contains word then some false
  else none

end ApiTools.ArgType
