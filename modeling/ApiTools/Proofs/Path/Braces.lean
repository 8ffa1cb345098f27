import ApiTools.Catalog
import ApiTools.Proofs.Path
import Mathlib.Data.List.Basic

/-!
# Paths with braces

An API description writes `{name}` where a whitelist writes `:name`. Rewriting a path leaves no
placeholder of the first form, also where pieces meet. As long as the path has no braces of its own,
the words in braces are its placeholders, and with the colons back it is the same path again.
-/

namespace ApiTools

namespace Path

open ApiTools.Text

/-! ## Reading braces -/

/-- The pieces of a path in which `{name}` is a placeholder. -/
def bracedPieces : List Char → List Piece
  | [] => []
  | c :: rest =>
    if c = '{' ∧ rest.takeWhile isWord ≠ [] ∧ (rest.dropWhile isWord).head? = some '}' then
      .placeholder (String.ofList (rest.takeWhile isWord)) ::
        bracedPieces (rest.dropWhile isWord).tail
    else
      .char c :: bracedPieces rest
termination_by path => path.length
decreasing_by
  · have shorter := (List.dropWhile_sublist isWord : (rest.dropWhile isWord).Sublist rest).length_le
    simp only [List.length_cons, List.length_tail]
    omega
  · simp

/-- The words in braces, from left to right. -/
def bracedWords (path : List Char) : List String :=
  (bracedPieces path).filterMap Piece.name?

/-- The path with `:name` for every `{name}`. -/
def withColons (path : List Char) : List Char :=
  (bracedPieces path).flatMap Piece.source

/-- The text of a piece with braces around the name of a placeholder. -/
def Piece.braced (piece : Piece) : List Char :=
  piece.text fun name => '{' :: (name.toList ++ ['}'])

theorem normalize_eq (path : List Char) : normalize path = (pieces path).flatMap Piece.braced := rfl

theorem isWord_closeBrace : isWord '}' = false := isWord_of_mem_marks (by decide)

theorem isWord_openBrace : isWord '{' = false := isWord_of_mem_marks (by decide)

theorem isWord_colon : isWord ':' = false := isWord_of_mem_marks (by decide)

/-- A name is not empty and has word characters only. -/
def IsName (name : String) : Prop :=
  name.toList ≠ [] ∧ ∀ c ∈ name.toList, isWord c = true

theorem isName_takeWhile {text : List Char} (filled : text.takeWhile isWord ≠ []) :
    IsName (String.ofList (text.takeWhile isWord)) := by
  rw [IsName, String.toList_ofList]
  exact ⟨filled, fun _ member => List.mem_takeWhile_imp member⟩

theorem isName_of_mem_pieces {path : List Char} {name : String} :
    .placeholder name ∈ pieces path → IsName name := by
  induction path using pieces.induct with
  | case1 => simp [pieces]
  | case2 c rest opens inductionHypothesis =>
      rw [pieces, if_pos opens, List.mem_cons]
      rintro (isFirst | later)
      · rw [Piece.placeholder.inj isFirst]
        exact isName_takeWhile opens.2
      · exact inductionHypothesis later
  | case3 c rest plain inductionHypothesis =>
      rw [pieces, if_neg plain, List.mem_cons]
      rintro (impossible | later)
      · cases impossible
      · exact inductionHypothesis later

theorem mem_of_mem_pieces {path : List Char} {c : Char} (member : .char c ∈ pieces path) :
    c ∈ path := by
  rw [← flatMap_source path, List.mem_flatMap]
  exact ⟨.char c, member, List.mem_singleton_self c⟩

theorem bracedPieces_placeholder {name : String} (isName : IsName name) (rest : List Char) :
    bracedPieces ((Piece.placeholder name).braced ++ rest) =
      .placeholder name :: bracedPieces rest := by
  have word : (name.toList ++ '}' :: rest).takeWhile isWord = name.toList := by
    rw [takeWhile_append_of_stop isWord_closeBrace, List.takeWhile_eq_self_iff]
    exact isName.2
  have behind : (name.toList ++ '}' :: rest).dropWhile isWord = '}' :: rest := by
    rw [dropWhile_append_of_stop isWord_closeBrace, List.dropWhile_eq_nil_iff.2 isName.2,
      List.nil_append]
  have written : (Piece.placeholder name).braced ++ rest = '{' :: (name.toList ++ '}' :: rest) := by
    simp [Piece.braced, Piece.text]
  rw [written, bracedPieces, word, behind, if_pos ⟨rfl, isName.1, rfl⟩, String.ofList_toList,
    List.tail_cons]

/-- Pieces are read back from their texts with braces. -/
theorem bracedPieces_flatMap {pieces : List Piece}
    (named : ∀ name, .placeholder name ∈ pieces → IsName name)
    (plain : .char '{' ∉ pieces) : bracedPieces (pieces.flatMap Piece.braced) = pieces := by
  induction pieces with
  | nil => rw [List.flatMap_nil, bracedPieces]
  | cons piece rest inductionHypothesis =>
      have others := inductionHypothesis
        (fun name member => named name (List.mem_cons_of_mem piece member))
        (fun member => plain (List.mem_cons_of_mem piece member))
      rw [List.flatMap_cons]
      cases piece with
      | placeholder name =>
          rw [bracedPieces_placeholder (named name List.mem_cons_self), others]
      | char c =>
          have noBrace : c ≠ '{' := by
            rintro rfl
            exact plain List.mem_cons_self
          have written : (Piece.char c).braced ++ rest.flatMap Piece.braced =
              c :: rest.flatMap Piece.braced := rfl
          rw [written, bracedPieces, if_neg fun opens => noBrace opens.1, others]

theorem bracedPieces_normalize {path : List Char} (noBrace : '{' ∉ path) :
    bracedPieces (normalize path) = pieces path :=
  bracedPieces_flatMap (fun _ => isName_of_mem_pieces) fun member =>
    noBrace (mem_of_mem_pieces member)

/-! ## No colon is left before a word -/

theorem placeholders_append_of_no_colon {first : List Char} (noColon : ':' ∉ first)
    (rest : List Char) : placeholders (first ++ rest) = placeholders rest := by
  induction first with
  | nil => rfl
  | cons c others inductionHypothesis =>
      rw [List.mem_cons, not_or] at noColon
      have plain : ¬(c = ':' ∧ (others ++ rest).takeWhile isWord ≠ []) :=
        fun opens => noColon.1 opens.1.symm
      rw [List.cons_append, placeholders, pieces, if_neg plain]
      exact inductionHypothesis noColon.2

theorem colon_notMem_braced {name : String} (isName : IsName name) :
    ':' ∉ (Piece.placeholder name).braced := by
  have notInName : ':' ∉ name.toList := by
    intro member
    have isWordColon := isName.2 ':' member
    rw [isWord_colon] at isWordColon
    cases isWordColon
  simp [Piece.braced, Piece.text, notInName]

/-- A path that starts with no word does not start with one when it is rewritten. -/
theorem takeWhile_normalize {path : List Char} (noWord : path.takeWhile isWord = []) :
    (normalize path).takeWhile isWord = [] := by
  cases path with
  | nil =>
      rw [normalize, pieces]
      rfl
  | cons c rest =>
      rw [normalize_eq, pieces]
      split
      · have written (name : String) (others : List Char) :
            (Piece.placeholder name).braced ++ others = '{' :: (name.toList ++ ['}'] ++ others) :=
          rfl
        rw [List.flatMap_cons, written, List.takeWhile_cons, isWord_openBrace]
        rfl
      · have notWord : ¬isWord c = true := by
          intro isWordC
          rw [List.takeWhile_cons, if_pos isWordC] at noWord
          cases noWord
        have written (others : List Char) : (Piece.char c).braced ++ others = c :: others := rfl
        rw [List.flatMap_cons, written, List.takeWhile_cons, if_neg notWord]

theorem placeholders_normalize (path : List Char) : placeholders (normalize path) = [] := by
  induction path using pieces.induct with
  | case1 =>
      rw [normalize, pieces, List.flatMap_nil, placeholders, pieces]
      rfl
  | case2 c rest opens inductionHypothesis =>
      have noColon := colon_notMem_braced (isName_takeWhile opens.2)
      rw [normalize_eq, pieces, if_pos opens, List.flatMap_cons,
        placeholders_append_of_no_colon noColon]
      exact inductionHypothesis
  | case3 c rest plain inductionHypothesis =>
      -- a colon that opened nothing opens nothing in front of the rewritten rest either
      have stillPlain : ¬(c = ':' ∧ (normalize rest).takeWhile isWord ≠ []) :=
        fun opens => plain ⟨opens.1, fun noWord => opens.2 (takeWhile_normalize noWord)⟩
      have written : normalize (c :: rest) = c :: normalize rest := by
        rw [normalize_eq, pieces, if_neg plain]
        rfl
      rw [written, placeholders, pieces, if_neg stillPlain]
      exact inductionHypothesis

/-- A path without placeholders has no colon in front of a word character. -/
theorem isWord_behind_colon {path : List Char} (noPlaceholder : placeholders path = []) :
    ∀ before c after, path = before ++ ':' :: c :: after → isWord c = false := by
  induction path using pieces.induct with
  | case1 =>
      intro before c after impossible
      cases before <;> cases impossible
  | case2 first rest opens _ =>
      rw [placeholders, pieces, if_pos opens] at noPlaceholder
      cases noPlaceholder
  | case3 first rest plain inductionHypothesis =>
      intro before c after split
      rw [placeholders, pieces, if_neg plain] at noPlaceholder
      cases before with
      | nil =>
          obtain ⟨isColon, rfl⟩ := List.cons.inj split
          by_contra isWordC
          rw [Bool.not_eq_false] at isWordC
          apply plain
          rw [List.takeWhile_cons, if_pos isWordC]
          exact ⟨isColon, List.cons_ne_nil _ _⟩
      | cons _ others =>
          exact inductionHypothesis noPlaceholder others c after (List.cons.inj split).2

theorem normalize_eq_self {path : List Char} (noPlaceholder : placeholders path = []) :
    normalize path = path := by
  have same : ∀ piece ∈ pieces path, piece.braced = piece.source := by
    intro piece member
    cases piece with
    | char c => rfl
    | placeholder name =>
        have isNone := List.filterMap_eq_nil_iff.1 noPlaceholder _ member
        cases isNone
  calc
    normalize path = (pieces path).flatMap Piece.source := List.flatMap_congr same
    _ = path := flatMap_source path

end Path

/-! ## Entries of a whitelist -/

/-- The path at which an API description has the operation of an entry. -/
def WhitelistEntry.describedPath (entry : WhitelistEntry) : String :=
  String.ofList (Path.normalize entry.path.toList)

/-- The path is written without braces. -/
def WhitelistEntry.IsBraceFree (entry : WhitelistEntry) : Prop :=
  '{' ∉ entry.path.toList ∧ '}' ∉ entry.path.toList

/-- An entry is compiled from the operation that the description has at the path with braces. -/
theorem Catalog.compileEntry_eq (description : Json) (entry : WhitelistEntry) :
    compileEntry description entry =
      operation description entry.describedPath entry.method >>= fun operation =>
        if operation.isNull then
          pure (none, [.operationNotFound entry.method entry.path])
        else do
          let (tool, warnings) ← tool entry operation
          return (some tool, warnings) := rfl

namespace Path

open ApiTools.Text

/-- Rewriting loses nothing. What is rewritten has no placeholders and no colon in front of a word
character, so that rewriting it again changes nothing. Of a path without braces it has the
placeholders as its words in braces, and the path comes back with the colons. So entries with such
paths are looked up at different places of a description, unless their paths are the same. -/
theorem normalize_faithful (path : List Char) :
    placeholders (normalize path) = [] ∧
      (∀ before c after, normalize path = before ++ ':' :: c :: after → isWord c = false) ∧
      normalize (normalize path) = normalize path ∧
      ('{' ∉ path → '}' ∉ path →
        bracedWords (normalize path) = placeholders path ∧ withColons (normalize path) = path) ∧
      ∀ entry other : WhitelistEntry, entry.IsBraceFree → other.IsBraceFree →
        (entry.describedPath = other.describedPath ↔ entry.path = other.path) := by
  have restored {path : List Char} (noBrace : '{' ∉ path) :
      withColons (normalize path) = path := by
    rw [withColons, bracedPieces_normalize noBrace, flatMap_source]
  have noneLeft := placeholders_normalize path
  refine ⟨noneLeft, isWord_behind_colon noneLeft, normalize_eq_self noneLeft, ?_, ?_⟩
  · intro noBrace _
    refine ⟨?_, restored noBrace⟩
    rw [bracedWords, bracedPieces_normalize noBrace, placeholders]
  · intro entry other braceFree otherBraceFree
    constructor
    · intro same
      have sameText : normalize entry.path.toList = normalize other.path.toList :=
        String.ofList_injective same
      have samePath : entry.path.toList = other.path.toList := by
        rw [← restored braceFree.1, sameText, restored otherBraceFree.1]
      exact String.toList_inj.1 samePath
    · intro same
      rw [WhitelistEntry.describedPath, same]
      rfl

/-- A path with colons in a row, and with placeholders that touch each other and a letter. -/
def crowdedEntry : WhitelistEntry :=
  .json "::a:b/é:ü?:c:" "get"

/-- The same path but for one colon. -/
def sparserEntry : WhitelistEntry :=
  .json ":a:b/é:ü?:c:" "get"

set_option maxRecDepth 20000 in
/-- Every placeholder of such a path is found in braces, and one colon makes a difference. -/
theorem normalize_faithful_of_crowdedEntry :
    crowdedEntry.IsBraceFree ∧ sparserEntry.IsBraceFree ∧
      bracedWords (normalize crowdedEntry.path.toList) = ["a", "b", "ü", "c"] ∧
      withColons (normalize crowdedEntry.path.toList) = crowdedEntry.path.toList ∧
      crowdedEntry.describedPath ≠ sparserEntry.describedPath := by
  have braceFree : crowdedEntry.IsBraceFree := ⟨by decide, by decide⟩
  have otherBraceFree : sparserEntry.IsBraceFree := ⟨by decide, by decide⟩
  obtain ⟨-, -, -, keeps, apart⟩ := normalize_faithful crowdedEntry.path.toList
  obtain ⟨words, restored⟩ := keeps braceFree.1 braceFree.2
  refine ⟨braceFree, otherBraceFree, ?_, restored, ?_⟩
  · rw [words]
    decide +kernel
  · exact mt (apart crowdedEntry sparserEntry braceFree otherBraceFree).1 (by decide)

end Path

end ApiTools
