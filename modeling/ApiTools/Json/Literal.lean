import ApiTools.Json.Printer
import ApiTools.Text.Printable

/-!
# Literals

A value as it stands in the source of the compiled module, and as it is shown inside a line of
text. In a line of text only a text itself stands without quotes.
-/

namespace ApiTools.Json

/-- A code point as an escape, in the shortest of the three forms that holds it. -/
def sourceEscape (c : Char) : List Char :=
  let code := c.toNat
  let digit (place : Nat) : Char := hexDigit (code / Nat.pow 16 place % 16)
  if code ≤ 0xFF then ['\\', 'x', digit 1, digit 0]
  else if code ≤ 0xFFFF then ['\\', 'u', digit 3, digit 2, digit 1, digit 0]
  else
    ['\\', 'U', digit 7, digit 6, digit 5, digit 4, digit 3, digit 2, digit 1, digit 0]

/-- A character within the given quotes: printable characters stand for themselves. -/
def sourceChar (mark c : Char) : List Char :=
  if c = mark ∨ c = '\\' then ['\\', c]
  else if c = '\n' then ['\\', 'n']
  else if c = '\r' then ['\\', 'r']
  else if c = '\t' then ['\\', 't']
  else if Text.isPrintable c then [c]
  else sourceEscape c

/-- The quotes for a text: single ones, unless only they occur in it. -/
def quoteMark (text : List Char) : Char :=
  if text.contains '\'' && !text.contains '"' then '"' else '\''

/-- A text as a source literal. -/
def textLiteral (text : String) : List Char :=
  let mark := quoteMark text.toList
  mark :: (text.toList.flatMap (sourceChar mark) ++ [mark])

mutual

/-- A value as a source literal. -/
def literal : Json → List Char
  | .null => "None".toList
  | .bool true => "True".toList
  | .bool false => "False".toList
  | .int value => (toString value).toList
  | .float value => value.text "nan" "inf"
  | .str value => textLiteral value
  | .arr items => '[' :: (literalItems items ++ [']'])
  | .obj fields => '{' :: (literalFields fields ++ ['}'])
termination_by structural value => value

/-- The items of an array as source literals. -/
def literalItems : List Json → List Char
  | [] => []
  | item :: rest =>
    literal item ++ (if rest.isEmpty then [] else ',' :: ' ' :: literalItems rest)
termination_by structural items => items

/-- The members of an object as source literals. -/
def literalFields : List (String × Json) → List Char
  | [] => []
  | (key, value) :: rest =>
    textLiteral key ++ ':' :: ' ' :: literal value ++
      (if rest.isEmpty then [] else ',' :: ' ' :: literalFields rest)
termination_by structural fields => fields

end

mutual

/-- Every number in a value is finite. Only the literals of such values denote a value. -/
def isFinite : Json → Bool
  | .float (.finite _ _ _) => true
  | .float _ => false
  | .arr items => areFinite items
  | .obj fields => haveFinite fields
  | .null | .bool _ | .int _ | .str _ => true
termination_by structural value => value

/-- Every number in some items is finite. -/
def areFinite : List Json → Bool
  | [] => true
  | item :: rest => isFinite item && areFinite rest
termination_by structural items => items

/-- Every number in some members is finite. -/
def haveFinite : List (String × Json) → Bool
  | [] => true
  | (_, value) :: rest => isFinite value && haveFinite rest
termination_by structural fields => fields

end

/-- A value within a line of text. -/
def shown : Json → List Char
  | .str value => value.toList
  | value => literal value

/-- A value within a line of text, as a text. -/
def toText (value : Json) : String :=
  String.ofList value.shown

end ApiTools.Json
