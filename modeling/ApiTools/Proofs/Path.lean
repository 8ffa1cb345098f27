import ApiTools.Path
import ApiTools.Proofs.Text.Search

/-!
# The placeholders before and after the first question mark

A question mark ends every placeholder before it, so the pieces of a path are those of its route and
those of the rest.
-/

namespace ApiTools.Path

open ApiTools.Text

/-- No mark of a path is part of a word. -/
theorem isWord_of_mem_marks {mark : Char} (isMark : mark ∈ ['?', ':', '{', '}']) :
    isWord mark = false := by
  have noWord : ['?', ':', '{', '}'].all (fun mark => isWord mark == false) = true := by
    decide +kernel
  exact beq_iff_eq.1 (List.all_eq_true.1 noWord mark isMark)

theorem isWord_questionMark : isWord '?' = false := isWord_of_mem_marks (by decide)

/-- A character that is neither a colon nor part of a word separates the pieces on its sides. -/
theorem pieces_append {mark : Char} (notWord : isWord mark = false) (notColon : mark ≠ ':')
    (rest : List Char) (first : List Char) :
    pieces (first ++ mark :: rest) = pieces first ++ .char mark :: pieces rest := by
  induction first using pieces.induct with
  | case1 =>
      have plain : ¬ (mark = ':' ∧ rest.takeWhile isWord ≠ []) := fun both => notColon both.1
      rw [List.nil_append, pieces.eq_2, if_neg plain, pieces.eq_1, List.nil_append]
  | case2 c others opens inductionHypothesis =>
      rw [List.cons_append, pieces, takeWhile_append_of_stop notWord,
        dropWhile_append_of_stop notWord, if_pos opens, inductionHypothesis, pieces, if_pos opens,
        List.cons_append]
  | case3 c others plain inductionHypothesis =>
      rw [List.cons_append, pieces, takeWhile_append_of_stop notWord, if_neg plain,
        inductionHypothesis, pieces, if_neg plain, List.cons_append]

/-- The text of a piece as it stands in a path. -/
def Piece.source (piece : Piece) : List Char :=
  piece.text fun name => ':' :: name.toList

/-- Nothing of a path is lost between its pieces. -/
theorem flatMap_source (path : List Char) : (pieces path).flatMap Piece.source = path := by
  induction path using pieces.induct with
  | case1 =>
      rw [pieces]
      rfl
  | case2 c rest opens inductionHypothesis =>
      have named : (Piece.placeholder (String.ofList (rest.takeWhile isWord))).source =
          ':' :: rest.takeWhile isWord := by
        rw [Piece.source, Piece.text, String.toList_ofList]
      rw [pieces, if_pos opens, List.flatMap_cons, inductionHypothesis, named, List.cons_append,
        List.takeWhile_append_dropWhile, opens.1]
  | case3 c rest plain inductionHypothesis =>
      rw [pieces, if_neg plain, List.flatMap_cons, inductionHypothesis]
      rfl

/-- The placeholders of a path are those of its route and the query markers. -/
theorem placeholders_eq_append (path : List Char) :
    placeholders path = placeholders (route path) ++ markers path := by
  unfold markers markerPart route
  cases found : after? '?' path with
  | none =>
      rw [← eq_before_of_after?_eq_none found]
      simp [placeholders, pieces]
  | some rest =>
      have apart : pieces path = pieces (before '?' path) ++ .char '?' :: pieces rest := by
        rw [← pieces_append isWord_questionMark (by decide), ← eq_before_of_after? found]
      rw [placeholders, apart, List.filterMap_append]
      rfl

end ApiTools.Path
