import ApiTools.Text.Search
import ApiTools.Text.Word

/-!
# Paths with placeholders

The path of an operation is a text in which `:name` marks a placeholder; its name is a maximal run
of word characters. Placeholders after the first `?` are query markers, those before it are filled
into the path. An API description writes `{name}` for `:name`.
-/

namespace ApiTools.Path

open ApiTools.Text

/-- A piece of a path: a character that stands for itself, or a placeholder. -/
inductive Piece where
  | char (c : Char)
  | placeholder (name : String)
  deriving DecidableEq, Repr

/-- The pieces of a path, from left to right. -/
def pieces : List Char → List Piece
  | [] => []
  | c :: rest =>
    if c = ':' ∧ rest.takeWhile isWord ≠ [] then
      .placeholder (String.ofList (rest.takeWhile isWord)) :: pieces (rest.dropWhile isWord)
    else
      .char c :: pieces rest
termination_by path => path.length
decreasing_by
  · have shorter := (List.dropWhile_sublist isWord : (rest.dropWhile isWord).Sublist rest).length_le
    simp only [List.length_cons]
    omega
  · simp

/-- The name of a placeholder. -/
def Piece.name? : Piece → Option String
  | .char _ => none
  | .placeholder name => some name

/-- The text of a piece, where `fill` gives the texts of placeholders. -/
def Piece.text (fill : String → List Char) : Piece → List Char
  | .char c => [c]
  | .placeholder name => fill name

/-- The placeholders of a path, from left to right, query markers included. -/
def placeholders (path : List Char) : List String :=
  (pieces path).filterMap Piece.name?

/-- The path with `{name}` for every placeholder `:name`, as an API description writes it. -/
def normalize (path : List Char) : List Char :=
  (pieces path).flatMap (Piece.text fun name => '{' :: (name.toList ++ ['}']))

/-- The part of a path before its first `?`. -/
def route (path : List Char) : List Char :=
  before '?' path

/-- The part of a path after its first `?`, if there is one. -/
def markerPart (path : List Char) : List Char :=
  (after? '?' path).getD []

/-- The query markers of a path: its placeholders after the first `?`. -/
def markers (path : List Char) : List String :=
  placeholders (markerPart path)

end ApiTools.Path
