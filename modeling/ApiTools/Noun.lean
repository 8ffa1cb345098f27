import ApiTools.Text.Case

/-!
# Singular nouns

The properties of a request body are plural nouns; a tool takes one item at a time, under the
singular. Endings are compared without regard to case, where the long s counts as `s` and the dotted
capital and dotless small i count as `i`.
-/

namespace ApiTools.Noun

/-- The endings of plurals with those of their singulars; the first one that fits is used. -/
def endings : List (String × String) := [
  ("movies", "movie"), ("shows", "show"), ("series", "series"), ("episodes", "episode"),
  ("anime", "anime"), ("ies", "y"), ("s", "")]

/-- The character is the given lower-case letter, in either case. -/
def sameLetter (letter c : Char) : Bool :=
  Text.lowerForm c == [letter] || (letter == 's' && c == 'ſ') ||
    (letter == 'i' && (c == 'İ' || c == 'ı'))

/-- The text is the given lower-case ending, in any case. -/
def sameEnding : List Char → List Char → Bool
  | [], [] => true
  | letter :: letters, c :: rest => sameLetter letter c && sameEnding letters rest
  | _, _ => false

/-- The text before an ending, if it ends so. -/
def stem? (ending word : List Char) : Option (List Char) :=
  let size := word.length - ending.length
  if sameEnding ending (word.drop size) then some (word.take size) else none

/-- The singular of a word without a line break at its end. -/
def singularOfLine (word : List Char) : List Char :=
  (endings.findSome? fun (plural, singular) =>
    (stem? plural.toList word).map (· ++ singular.toList)).getD word

/-- The singular of a word. One line break at its end stays where it is. -/
def singular (word : String) : String :=
  let text := word.toList
  if text.getLast? = some '\n' then String.ofList (singularOfLine text.dropLast ++ ['\n'])
  else String.ofList (singularOfLine text)

end ApiTools.Noun
