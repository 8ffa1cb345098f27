import ApiTools.Decimal.Reader
import ApiTools.Json.Basic

/-!
# Tokens of a document

A document is cut into tokens one character at a time. The state between two characters is a
`Scanner`; `Scanner.step` takes the next character, so a document may arrive in pieces. What makes
no token is a token too, so that a reader meets it in its place among the others.
-/

namespace ApiTools.Json

/-- A token. Texts are apart from the other values because a text may also be a key. -/
inductive Token where
  | openBrace
  | closeBrace
  | openBracket
  | closeBracket
  | comma
  | colon
  | text (value : String)
  | scalar (value : Json)
  /-- An integer with too many digits. -/
  | overlong
  /-- Characters that make no token. -/
  | broken
  deriving DecidableEq

/-! ## Words and numbers -/

/-- An exponent: digits with or without a sign, after the letter. -/
def readExponent? : List Char → Option Int
  | '-' :: digits =>
    if digits ≠ [] ∧ digits.all Char.isDigit then some (-(Nat.ofDigitChars 10 digits 0 : Int))
    else none
  | '+' :: digits =>
    if digits ≠ [] ∧ digits.all Char.isDigit then some (Nat.ofDigitChars 10 digits 0) else none
  | digits =>
    if digits ≠ [] ∧ digits.all Char.isDigit then some (Nat.ofDigitChars 10 digits 0) else none

/-- The fraction's digits and the exponent that follow a number's whole part, when at least one of
them is there. -/
def readScale? (tail : List Char) : Option (List Char × Int) :=
  match tail with
  | '.' :: rest =>
    let fraction := rest.takeWhile Char.isDigit
    if fraction.isEmpty then none
    else
      match rest.dropWhile Char.isDigit with
      | [] => some (fraction, 0)
      | mark :: rest =>
        if mark = 'e' ∨ mark = 'E' then (readExponent? rest).map (fraction, ·) else none
  | mark :: rest =>
    if mark = 'e' ∨ mark = 'E' then (readExponent? rest).map ([], ·) else none
  | [] => none

/-- An unsigned number: a whole part without leading zeros, and perhaps a fraction and an exponent,
each of which makes the number a floating-point one. -/
def readUnsigned? (negative : Bool) (text : List Char) : Option Json :=
  let whole := text.takeWhile Char.isDigit
  let tail := text.dropWhile Char.isDigit
  if whole = [] ∨ (whole.head? = some '0' ∧ whole ≠ ['0']) then none
  else if tail = [] then
    let size : Int := Nat.ofDigitChars 10 whole 0
    some (.int (if negative then -size else size))
  else
    (readScale? tail).map fun (fraction, exponent) =>
      .float (.ofDecimal negative (Nat.ofDigitChars 10 (whole ++ fraction) 0)
        (exponent - fraction.length))

/-- The value of a word or number. -/
def readScalar? (text : List Char) : Option Json :=
  if text = "null".toList then some .null
  else if text = "true".toList then some (.bool true)
  else if text = "false".toList then some (.bool false)
  else if text = "NaN".toList then some (.float .nan)
  else if text = "Infinity".toList then some (.float (.infinite false))
  else if text = "-Infinity".toList then some (.float (.infinite true))
  else
    match text with
    | '-' :: rest => readUnsigned? true rest
    | _ => readUnsigned? false text

/-- A fraction or an exponent follows a number's whole part. -/
def startsScale : List Char → Bool
  | '.' :: digit :: _ => digit.isDigit
  | mark :: sign :: rest =>
    (mark == 'e' || mark == 'E') &&
      (sign.isDigit || ((sign == '+' || sign == '-') && (rest.head?.map Char.isDigit).getD false))
  | _ => false

/-- The text starts with an integer that has too many digits. -/
def isOverlong (text : List Char) : Bool :=
  let unsigned := if text.head? = some '-' then text.drop 1 else text
  let whole := unsigned.takeWhile Char.isDigit
  Decimal.digitLimit < whole.length && whole.head? != some '0' &&
    !startsScale (unsigned.dropWhile Char.isDigit)

/-- The token of a word or number. -/
def readWord (text : List Char) : Token :=
  if isOverlong text then .overlong
  else
    match readScalar? text with
    | some value => .scalar value
    | none => .broken

/-! ## Quoted texts -/

/-- The part of a quoted text that has been read, last character first. `high` is the first half of
a surrogate pair while its second half has not been seen. -/
structure Draft where
  chars : List Char
  high : Option Nat

namespace Draft

/-- The characters, where half a pair counts as the replacement character. -/
def settled (draft : Draft) : List Char :=
  match draft.high with
  | none => draft.chars
  | some _ => '\uFFFD' :: draft.chars

/-- Adds a character. -/
def push (draft : Draft) (c : Char) : Draft :=
  ⟨c :: draft.settled, none⟩

/-- Adds a UTF-16 unit: a character, or half of a pair. -/
def pushUnit (draft : Draft) (unit : Nat) : Draft :=
  if 0xD800 ≤ unit ∧ unit < 0xDC00 then ⟨draft.settled, some unit⟩
  else if 0xDC00 ≤ unit ∧ unit < 0xE000 then
    match draft.high with
    | some high =>
      ⟨Char.ofNat (0x10000 + (high - 0xD800) * 0x400 + (unit - 0xDC00)) :: draft.chars, none⟩
    | none => draft.push '\uFFFD'
  else draft.push (Char.ofNat unit)

end Draft

/-- The character that a short escape stands for. -/
def unescape? (c : Char) : Option Char :=
  [('"', '"'), ('\\', '\\'), ('/', '/'), ('b', '\x08'), ('f', '\x0c'), ('n', '\n'), ('r', '\r'),
    ('t', '\t')].lookup c

/-! ## The scanner -/

/-- Where the scanner stands. -/
inductive Place where
  /-- Outside of words and texts. -/
  | between
  /-- In a word or number; its characters so far, last one first. -/
  | bare (chars : List Char)
  /-- In a quoted text. -/
  | quoted (draft : Draft)
  /-- After a backslash. -/
  | escaped (draft : Draft)
  /-- In the digits of a numeric escape, of which `left` are still to come. -/
  | numeric (draft : Draft) (left : Nat) (unit : Nat)
  /-- After a character that cannot stand in a quoted text; nothing more is read. -/
  | stuck

/-- The place and the tokens so far, last one first. -/
structure Scanner where
  place : Place
  tokens : List Token

/-- The four characters that may stand between tokens. -/
def isGap (c : Char) : Bool :=
  c == ' ' || c == '\t' || c == '\n' || c == '\r'

/-- The tokens of one character. -/
def mark? (c : Char) : Option Token :=
  [('{', Token.openBrace), ('}', .closeBrace), ('[', .openBracket), (']', .closeBracket),
    (',', .comma), (':', .colon)].lookup c

namespace Scanner

/-- Before the first character. -/
def start : Scanner :=
  ⟨.between, []⟩

/-- The tokens so far, last one first, when what is under way comes to an end. -/
def settled (scanner : Scanner) : List Token :=
  match scanner.place with
  | .between => scanner.tokens
  | .bare chars => readWord chars.reverse :: scanner.tokens
  | .quoted _ | .escaped _ | .numeric _ _ _ | .stuck => .broken :: scanner.tokens

/-- Takes a character outside of quoted texts. -/
def stepPlain (scanner : Scanner) (c : Char) : Scanner :=
  if isGap c then ⟨.between, scanner.settled⟩
  else if c = '"' then ⟨.quoted ⟨[], none⟩, scanner.settled⟩
  else
    match mark? c with
    | some token => ⟨.between, token :: scanner.settled⟩
    | none =>
      match scanner.place with
      | .bare chars => ⟨.bare (c :: chars), scanner.tokens⟩
      | _ => ⟨.bare [c], scanner.tokens⟩

/-- Takes the next character; control characters may not stand in quoted texts. -/
def step (scanner : Scanner) (c : Char) : Scanner :=
  match scanner.place with
  | .between | .bare _ => scanner.stepPlain c
  | .quoted draft =>
    if c = '"' then ⟨.between, .text (String.ofList draft.settled.reverse) :: scanner.tokens⟩
    else if c = '\\' then ⟨.escaped draft, scanner.tokens⟩
    else if c.toNat < 0x20 then ⟨.stuck, scanner.tokens⟩
    else ⟨.quoted (draft.push c), scanner.tokens⟩
  | .escaped draft =>
    if c = 'u' then ⟨.numeric draft 4 0, scanner.tokens⟩
    else
      match unescape? c with
      | some meant => ⟨.quoted (draft.push meant), scanner.tokens⟩
      | none => ⟨.stuck, scanner.tokens⟩
  | .numeric draft left unit =>
    match Text.hexValue? c with
    | some digit =>
      let unit := 16 * unit + digit
      if left ≤ 1 then ⟨.quoted (draft.pushUnit unit), scanner.tokens⟩
      else ⟨.numeric draft (left - 1) unit, scanner.tokens⟩
    | none => ⟨.stuck, scanner.tokens⟩
  | .stuck => scanner

/-- Takes all characters of a text. -/
def run (scanner : Scanner) (text : List Char) : Scanner :=
  text.foldl step scanner

theorem run_append (scanner : Scanner) (left right : List Char) :
    scanner.run (left ++ right) = (scanner.run left).run right := by
  simp [run]

end Scanner

/-- The tokens of a document. -/
def tokens (document : List Char) : List Token :=
  (Scanner.start.run document).settled.reverse

end ApiTools.Json
