import ApiTools.Decimal.Shortest
import ApiTools.Json.Basic

/-!
# Writing a document

A value as JSON text: on one line, or with one member or item a line and two blanks of indentation
for every level. Texts are written in ASCII or as they are.
-/

namespace ApiTools.Json

/-! ## Texts -/

/-- The digit of a value below 16. -/
def hexDigit (value : Nat) : Char :=
  if value < 10 then Char.ofNat ('0'.toNat + value) else Char.ofNat ('a'.toNat + (value - 10))

/-- A UTF-16 unit as a numeric escape. -/
def unitEscape (unit : Nat) : List Char :=
  ['\\', 'u', hexDigit (unit / 4096 % 16), hexDigit (unit / 256 % 16), hexDigit (unit / 16 % 16),
    hexDigit (unit % 16)]

/-- A character as numeric escapes, two of them beyond the 16-bit range. -/
def numericEscape (c : Char) : List Char :=
  let code := c.toNat
  if code < 0x10000 then unitEscape code
  else
    unitEscape (0xD800 + (code - 0x10000) / 0x400) ++ unitEscape (0xDC00 + (code - 0x10000) % 0x400)

/-- The letter of a character's short escape. -/
def shortEscape? (c : Char) : Option Char :=
  [('"', '"'), ('\\', '\\'), ('\x08', 'b'), ('\x0c', 'f'), ('\n', 'n'), ('\r', 'r'),
    ('\t', 't')].lookup c

/-- A character within quotes. With `ascii`, everything beyond the visible ASCII characters is
escaped; control characters always are. -/
def escapeChar (ascii : Bool) (c : Char) : List Char :=
  match shortEscape? c with
  | some letter => ['\\', letter]
  | none =>
    if c.toNat < 0x20 then numericEscape c
    else if ascii && 0x7E < c.toNat then numericEscape c
    else [c]

/-- A text in quotes. -/
def quote (ascii : Bool) (text : String) : List Char :=
  '"' :: (text.toList.flatMap (escapeChar ascii) ++ ['"'])

/-! ## Values -/

/-- The text of a value without parts. -/
def scalarText (ascii : Bool) : Json → List Char
  | .null => "null".toList
  | .bool true => "true".toList
  | .bool false => "false".toList
  | .int value => (toString value).toList
  | .float value => value.text "NaN" "Infinity"
  | .str value => quote ascii value
  | .arr _ => "[]".toList
  | .obj _ => "{}".toList

mutual

/-- A value on one line, in ASCII, with a blank after every comma and colon. -/
def compact : Json → List Char
  | .arr items => '[' :: (compactItems items ++ [']'])
  | .obj fields => '{' :: (compactFields fields ++ ['}'])
  | .null => scalarText true .null
  | .bool value => scalarText true (.bool value)
  | .int value => scalarText true (.int value)
  | .float value => scalarText true (.float value)
  | .str value => scalarText true (.str value)
termination_by structural value => value

/-- The items of an array. -/
def compactItems : List Json → List Char
  | [] => []
  | item :: rest =>
    compact item ++ (if rest.isEmpty then [] else ',' :: ' ' :: compactItems rest)
termination_by structural items => items

/-- The members of an object. -/
def compactFields : List (String × Json) → List Char
  | [] => []
  | (key, value) :: rest =>
    quote true key ++ ':' :: ' ' :: compact value ++
      (if rest.isEmpty then [] else ',' :: ' ' :: compactFields rest)
termination_by structural fields => fields

end

/-- A new line, indented to a level. -/
def newLine (level : Nat) : List Char :=
  '\n' :: List.replicate (2 * level) ' '

mutual

/-- A value over several lines, whose first line starts at a level of indentation. -/
def indented (ascii : Bool) (level : Nat) : Json → List Char
  | .arr items =>
    if items.isEmpty then "[]".toList
    else
      '[' :: (newLine (level + 1) ++ indentedItems ascii (level + 1) items ++
        newLine level ++ [']'])
  | .obj fields =>
    if fields.isEmpty then "{}".toList
    else
      '{' :: (newLine (level + 1) ++ indentedFields ascii (level + 1) fields ++
        newLine level ++ ['}'])
  | .null => scalarText ascii .null
  | .bool value => scalarText ascii (.bool value)
  | .int value => scalarText ascii (.int value)
  | .float value => scalarText ascii (.float value)
  | .str value => scalarText ascii (.str value)
termination_by structural value => value

/-- The items of an array, one a line. -/
def indentedItems (ascii : Bool) (level : Nat) : List Json → List Char
  | [] => []
  | item :: rest =>
    indented ascii level item ++
      (if rest.isEmpty then [] else ',' :: (newLine level ++ indentedItems ascii level rest))
termination_by structural items => items

/-- The members of an object, one a line. -/
def indentedFields (ascii : Bool) (level : Nat) : List (String × Json) → List Char
  | [] => []
  | (key, value) :: rest =>
    quote ascii key ++ ':' :: ' ' :: indented ascii level value ++
      (if rest.isEmpty then [] else ',' :: (newLine level ++ indentedFields ascii level rest))
termination_by structural fields => fields

end

/-- A value on one line, in ASCII. -/
def toLine (value : Json) : String :=
  String.ofList value.compact

/-- A value over several lines. -/
def toLines (ascii : Bool) (value : Json) : String :=
  String.ofList (value.indented ascii 0)

end ApiTools.Json
