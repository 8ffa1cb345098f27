import ApiTools.Text.Blank
import ApiTools.Text.Digit
import ApiTools.Text.Search

/-!
# Markup in descriptions

Descriptions come with HTML tags and numeric entities. A pattern says how many characters an
occurrence at the start of a text has; `removeAll` deletes its occurrences from left to right, each
one looked for after the end of the one before.
-/

namespace ApiTools.Text

/-! ## Deleting occurrences of a pattern -/

/-- The text without the occurrences of a pattern, after `skip` characters that belong to an
occurrence found earlier. The pattern gives the length of an occurrence at the start of a text, and
zero where there is none. -/
def removeFrom (pattern : List Char → Nat) : Nat → List Char → List Char
  | _, [] => []
  | skip + 1, _ :: rest => removeFrom pattern skip rest
  | 0, c :: rest =>
    match pattern (c :: rest) with
    | 0 => c :: removeFrom pattern 0 rest
    | size + 1 => removeFrom pattern size rest

/-- The text without the occurrences of a pattern. -/
def removeAll (pattern : List Char → Nat) (text : List Char) : List Char :=
  removeFrom pattern 0 text

/-! ## Patterns -/

/-- A tag: everything from `<` to the next `>`. -/
def tagLength : List Char → Nat
  | '<' :: rest => if rest.contains '>' then (before '>' rest).length + 2 else 0
  | _ => 0

/-- A tag with something in it. -/
def filledTagLength : List Char → Nat
  | '<' :: '>' :: _ => 0
  | text => tagLength text

/-- A numeric entity: `&#`, decimal digits and a semicolon. -/
def entityLength : List Char → Nat
  | '&' :: '#' :: rest =>
    let digits := rest.takeWhile isDigit
    match rest.dropWhile isDigit with
    | ';' :: _ => if digits.isEmpty then 0 else digits.length + 3
    | _ => 0
  | _ => 0

/-! ## Blanks -/

/-- The text with every run of blanks made one space. -/
def collapseBlanks : List Char → List Char
  | [] => []
  | c :: rest =>
    if isBlank c then
      if (rest.head?.map isBlank).getD false then collapseBlanks rest
      else ' ' :: collapseBlanks rest
    else c :: collapseBlanks rest

end ApiTools.Text
